import TxIndexer.Std.Num

/-!
# Hexadecimal text

The renderings `{:x}` and `{:02x}` of the source, the `hex` crate's `decode`, and
`from_str_radix(_, 16)` on unsigned integers.
-/

namespace TxIndexer

/-- A byte string. -/
abbrev Bytes := List UInt8

/-- The unsigned value of a big-endian byte string. -/
def beNat (bytes : Bytes) : Nat := bytes.foldl (fun acc b => acc * 256 + b.toNat) 0

theorem foldl_beNat (bytes : Bytes) (acc : Nat) :
    bytes.foldl (fun acc b => acc * 256 + b.toNat) acc =
      acc * 256 ^ bytes.length + beNat bytes := by
  induction bytes generalizing acc with
  | nil => simp [beNat]
  | cons b bytes ih =>
      rw [beNat, List.foldl_cons, List.foldl_cons, ih, ih, List.length_cons, Nat.pow_succ']
      simp only [Nat.zero_mul, Nat.zero_add, Nat.add_mul, Nat.mul_assoc, Nat.add_assoc]

theorem beNat_append (high low : Bytes) :
    beNat (high ++ low) = beNat high * 256 ^ low.length + beNat low := by
  rw [beNat, List.foldl_append, foldl_beNat]
  rfl

theorem beNat_lt (bytes : Bytes) : beNat bytes < 256 ^ bytes.length := by
  induction bytes with
  | nil => simp [beNat]
  | cons b bytes ih =>
      have hb : b.toNat < 256 := b.toNat_lt
      have hcons : beNat (b :: bytes) = b.toNat * 256 ^ bytes.length + beNat bytes := by
        rw [beNat, List.foldl_cons, foldl_beNat, Nat.zero_mul, Nat.zero_add]
      rw [hcons, List.length_cons, Nat.pow_succ']
      calc b.toNat * 256 ^ bytes.length + beNat bytes
          < (b.toNat + 1) * 256 ^ bytes.length := by rw [Nat.add_mul, Nat.one_mul]; omega
        _ ≤ 256 * 256 ^ bytes.length := Nat.mul_le_mul_right _ hb

/-- The last `width` bytes of `n`, most significant first. -/
def beBytes : Nat → Nat → Bytes
  | 0, _ => []
  | width + 1, n => beBytes width (n / 256) ++ [UInt8.ofNat (n % 256)]

@[simp] theorem length_beBytes (width n : Nat) : (beBytes width n).length = width := by
  induction width generalizing n with
  | zero => rfl
  | succ width ih => simp [beBytes, ih]

theorem beNat_beBytes (width n : Nat) : beNat (beBytes width n) = n % 256 ^ width := by
  induction width generalizing n with
  | zero => simp [beBytes, beNat, Nat.mod_one]
  | succ width ih =>
      have hlast : beNat [UInt8.ofNat (n % 256)] = n % 256 := by simp [beNat]
      have hsplit := Nat.mod_mul (x := n) (a := 256) (b := 256 ^ width)
      rw [beBytes, beNat_append, ih, hlast, List.length_singleton, Nat.pow_one, Nat.pow_succ,
        Nat.mul_comm (256 ^ width), hsplit]
      omega

/-- A 32-byte hash as the RPC client holds it. -/
abbrev B256 := BitVec 256

/-- A 20-byte account address as the RPC client holds it. -/
abbrev Address := BitVec 160

/-- The lowercase digits. -/
def hexDigits : List Char :=
  ['0', '1', '2', '3', '4', '5', '6', '7', '8', '9', 'a', 'b', 'c', 'd', 'e', 'f']

/-- The lowercase digit for a value below 16. -/
def hexDigit (n : Nat) : Char := hexDigits.getD n '0'

/-- The value of a digit, in either case. -/
def hexValue (c : Char) : Option Nat :=
  if '0' ≤ c ∧ c ≤ '9' then some (c.toNat - '0'.toNat)
  else if 'a' ≤ c ∧ c ≤ 'f' then some (c.toNat - 'a'.toNat + 10)
  else if 'A' ≤ c ∧ c ≤ 'F' then some (c.toNat - 'A'.toNat + 10)
  else none

/-- The last `width` hexadecimal digits of `n`, most significant first. -/
def hexFixed : Nat → Nat → List Char
  | 0, _ => []
  | width + 1, n => hexFixed width (n / 16) ++ [hexDigit (n % 16)]

@[simp] theorem length_hexFixed (width n : Nat) : (hexFixed width n).length = width := by
  induction width generalizing n with
  | zero => rfl
  | succ width ih => simp [hexFixed, ih]

theorem hexDigit_inj : ∀ a < 16, ∀ b < 16, hexDigit a = hexDigit b → a = b := by
  decide

/-- A fixed-width rendering determines the value. -/
theorem hexFixed_inj (width : Nat) : ∀ {a b : Nat}, a < 16 ^ width → b < 16 ^ width →
    hexFixed width a = hexFixed width b → a = b := by
  induction width with
  | zero => intro a b ha hb _; simp at ha hb; omega
  | succ width ih =>
      intro a b ha hb h
      rw [Nat.pow_succ] at ha hb
      obtain ⟨hhigh, hlow⟩ := List.append_inj' h rfl
      have hdiv : a / 16 = b / 16 := ih (by omega) (by omega) hhigh
      have hmod : a % 16 = b % 16 :=
        hexDigit_inj _ (by omega) _ (by omega) (List.cons.inj hlow).1
      omega

/-- No digit is the NUL character. -/
theorem hexDigit_ne_nul (n : Nat) : hexDigit n ≠ '\x00' := by
  by_cases h : n < 16
  · have hsmall : ∀ n < 16, hexDigit n ≠ '\x00' := by decide
    exact hsmall n h
  · have hnone : hexDigits[n]? = none :=
      List.getElem?_eq_none (by simpa [hexDigits] using Nat.le_of_not_lt h)
    rw [hexDigit, List.getD_eq_getElem?_getD, hnone]
    decide

theorem nul_not_mem_hexFixed (width n : Nat) : '\x00' ∉ hexFixed width n := by
  induction width generalizing n with
  | zero => simp [hexFixed]
  | succ width ih =>
      simp only [hexFixed, List.mem_append, List.mem_singleton, not_or]
      exact ⟨ih _, (hexDigit_ne_nul _).symm⟩

/-- A rendering consists of lowercase digits. -/
theorem mem_hexDigits_of_mem_hexFixed {width n : Nat} {c : Char} (hc : c ∈ hexFixed width n) :
    c ∈ hexDigits := by
  have hdigit : ∀ n < 16, hexDigit n ∈ hexDigits := by decide
  induction width generalizing n with
  | zero => simp [hexFixed] at hc
  | succ width ih =>
      rcases List.mem_append.mp hc with hc | hc
      · exact ih hc
      · rw [List.mem_singleton.mp hc]
        exact hdigit (n % 16) (Nat.mod_lt n (by decide))

/-- `format!("0x{:x}", hash)`. -/
def hashHex (h : B256) : String := String.ofList ('0' :: 'x' :: hexFixed 64 h.toNat)

/-- `format!("{}", address).to_lowercase()`. -/
def addressHex (a : Address) : String := String.ofList ('0' :: 'x' :: hexFixed 40 a.toNat)

/-- Different hashes have different renderings. -/
theorem hashHex_inj {a b : B256} (h : hashHex a = hashHex b) : a = b := by
  have hlist := String.ofList_injective h
  simp only [List.cons.injEq, true_and] at hlist
  exact BitVec.eq_of_toNat_eq (hexFixed_inj 64 a.isLt b.isLt hlist)

@[simp] theorem hashHex_inj_iff {a b : B256} : hashHex a = hashHex b ↔ a = b :=
  ⟨hashHex_inj, congrArg hashHex⟩

/-- Different addresses have different renderings. -/
theorem addressHex_inj {a b : Address} (h : addressHex a = addressHex b) : a = b := by
  have hlist := String.ofList_injective h
  simp only [List.cons.injEq, true_and] at hlist
  exact BitVec.eq_of_toNat_eq (hexFixed_inj 40 a.isLt b.isLt hlist)

/-- `bytes_to_hex` (`trace.rs:230-232`): two digits a byte. -/
def bytesToHex (bytes : Bytes) : List Char := bytes.flatMap fun b => hexFixed 2 b.toNat

theorem nul_not_mem_bytesToHex (bytes : Bytes) : '\x00' ∉ bytesToHex bytes := by
  simp only [bytesToHex, List.mem_flatMap, not_exists, not_and]
  exact fun b _ => nul_not_mem_hexFixed 2 b.toNat

/-- `format!("{}", bytes)` of the RPC client's byte strings. -/
def bytesHex (bytes : Bytes) : String := String.ofList ('0' :: 'x' :: bytesToHex bytes)

/-- `hex::decode`: pairs of digits in either case, nothing else. -/
def hexDecode : List Char → Option Bytes
  | [] => some []
  | [_] => none
  | high :: low :: rest => do
      let h ← hexValue high
      let l ← hexValue low
      let tail ← hexDecode rest
      return UInt8.ofNat (h * 16 + l) :: tail

theorem hexValue_hexDigit : ∀ n < 16, hexValue (hexDigit n) = some n := by
  decide

/-- Every character of a rendering is a digit. -/
theorem hexValue_isSome_hexFixed (width n : Nat) :
    ∀ c ∈ hexFixed width n, (hexValue c).isSome = true := by
  induction width generalizing n with
  | zero => nofun
  | succ width ih =>
      intro c hc
      rcases List.mem_append.mp hc with hc | hc
      · exact ih (n / 16) c hc
      · rw [List.mem_singleton.mp hc, hexValue_hexDigit (n % 16) (Nat.mod_lt n (by decide))]
        rfl

/-- Decoding undoes the rendering of a byte string. -/
@[simp] theorem hexDecode_bytesToHex (bytes : Bytes) :
    hexDecode (bytesToHex bytes) = some bytes := by
  induction bytes with
  | nil => rfl
  | cons b bytes ih =>
      have hb : b.toNat < 256 := b.toNat_lt
      show hexDecode (hexDigit (b.toNat / 16 % 16) :: hexDigit (b.toNat % 16) ::
        bytesToHex bytes) = _
      have hbyte : UInt8.ofNat (b.toNat / 16 % 16 * 16 + b.toNat % 16) = b := by
        have hsum : b.toNat / 16 % 16 * 16 + b.toNat % 16 = b.toNat := by omega
        rw [hsum, UInt8.ofNat_toNat]
      simp only [hexDecode, hexValue_hexDigit _ (Nat.mod_lt _ (by omega : 0 < 16)), ih,
        Option.bind_eq_bind, Option.bind_some, Option.pure_def, hbyte]

/-- A rendering determines the byte string. -/
theorem bytesToHex_inj {a b : Bytes} (h : bytesToHex a = bytesToHex b) : a = b := by
  have hdecode := congrArg hexDecode h
  rw [hexDecode_bytesToHex, hexDecode_bytesToHex] at hdecode
  exact Option.some.inj hdecode

theorem bytesHex_inj {a b : Bytes} (h : bytesHex a = bytesHex b) : a = b := by
  have hlist := String.ofList_injective h
  simp only [List.cons.injEq, true_and] at hlist
  exact bytesToHex_inj hlist

/-- `s.strip_prefix("0x").unwrap_or(s)`. -/
def stripHexPrefix : List Char → List Char
  | '0' :: 'x' :: rest => rest
  | cs => cs

/-- The value of a digit string read from the left. -/
def hexNat : List Char → Option Nat :=
  List.foldlM (fun acc c => (hexValue c).map (acc * 16 + ·)) 0

/-- Reading the last digits of a number gives its remainder. -/
theorem hexNat_hexFixed (width n : Nat) : hexNat (hexFixed width n) = some (n % 16 ^ width) := by
  induction width generalizing n with
  | zero => simp [hexFixed, hexNat, Nat.mod_one]
  | succ width ih =>
      have hhigh : List.foldlM (fun acc c => (hexValue c).map (acc * 16 + ·)) 0
          (hexFixed width (n / 16)) = some (n / 16 % 16 ^ width) := ih (n / 16)
      rw [hexNat, hexFixed, List.foldlM_append, hhigh]
      have hlow : hexValue (hexDigit (n % 16)) = some (n % 16) :=
        hexValue_hexDigit (n % 16) (Nat.mod_lt n (by decide))
      simp only [Option.bind_eq_bind, Option.bind_some, List.foldlM_cons, List.foldlM_nil, hlow,
        Option.map_some]
      have hsplit := Nat.mod_mul (x := n) (a := 16) (b := 16 ^ width)
      rw [Nat.pow_succ, Nat.mul_comm (16 ^ width), hsplit]
      simp [Nat.mul_comm, Nat.add_comm]

/-- `from_str_radix(s, 16)` for an unsigned type of the given width: a `+` may lead, there is
at least one digit, and the value fits. -/
def fromStrRadix16 (bits : Nat) (cs : List Char) : Option Nat :=
  let digits := match cs with
    | '+' :: rest => rest
    | _ => cs
  if digits = [] then none
  else (hexNat digits).filter (· < 2 ^ bits)

end TxIndexer
