import TxIndexer.Std.SqlText
import Mathlib.Data.List.Basic

/-!
# Webhook receivers

The two signature checks the repository gives to receivers: `verifyAlertSignature` of
`examples/typescript-client/client.ts` and `verify_alert_signature` of
`examples/python-client/client.py`. HMAC-SHA256 is the parameter `hmacSha256`.
-/

namespace TxIndexer.Client

/-- `"sha256="`. -/
def signaturePrefix : List Char := "sha256=".toList

/-- The digits of a header, behind the prefix (`client.ts:467-478`, `client.py:527-531`). -/
def signatureDigits (signatureHeader : Option String) : Option (List Char) :=
  match signatureHeader with
  | none => none
  | some header =>
      match header.toList.dropPrefix? signaturePrefix with
      | none => none
      | some digits => if digits ≠ [] ∧ digits.all isHexDigit then some digits else none

/-- `/^[0-9a-fA-F]{64}$/`. -/
def isSigningSecret (secret : String) : Bool :=
  secret.toList.length == 64 && secret.toList.all isHexDigit

/-- `Buffer.from(s, "hex")`: pairs of digits, up to the first pair that is not one. -/
def bufferFromHex : List Char → Bytes
  | high :: low :: rest =>
      match hexValue high, hexValue low with
      | some h, some l => UInt8.ofNat (h * 16 + l) :: bufferFromHex rest
      | _, _ => []
  | _ => []

section Verify

variable (hmacSha256 : Bytes → Bytes → Bytes) (rawBody : Bytes)
  (signatureHeader : Option String) (signingSecret : String)

/-- `verifyAlertSignature` (`client.ts:462-491`). -/
def verifyAlertSignatureTs : Bool :=
  match signatureDigits signatureHeader with
  | none => false
  | some sigHex =>
      if isSigningSecret signingSecret then
        let expected := hmacSha256 (bufferFromHex signingSecret.toList) rawBody
        let actual := bufferFromHex sigHex
        actual.length == expected.length && actual == expected
      else false

/-- `verify_alert_signature` (`client.py:511-542`); `bytes.fromhex` is `hexDecode`. -/
def verifyAlertSignaturePy : Bool :=
  match signatureDigits signatureHeader with
  | none => false
  | some sigHex =>
      if isSigningSecret signingSecret then
        match hexDecode signingSecret.toList, hexDecode sigHex with
        | some key, some actual =>
            let expected := hmacSha256 key rawBody
            actual.length == expected.length && actual == expected
        | _, _ => false
      else false

end Verify

/-! ## What the receivers accept -/

theorem signatureDigits_eq_some {signatureHeader : Option String} {digits : List Char} :
    signatureDigits signatureHeader = some digits ↔
      signatureHeader = some (String.ofList (signaturePrefix ++ digits)) ∧ digits ≠ [] ∧
        ∀ c ∈ digits, isHexDigit c = true := by
  cases signatureHeader with
  | none => simp [signatureDigits]
  | some header =>
      rw [signatureDigits]
      cases hdrop : header.toList.dropPrefix? signaturePrefix with
      | none =>
          constructor
          · intro h
            cases h
          · rintro ⟨hheader, -⟩
            cases hheader
            rw [String.toList_ofList, List.dropPrefix?_append_of_beq _ (beq_self_eq_true _)] at hdrop
            cases hdrop
      | some digits' =>
          obtain ⟨p, hp, hbeq⟩ := List.dropPrefix?_eq_some_iff.mp hdrop
          have hheader : header = String.ofList (signaturePrefix ++ digits') := by
            rw [← String.ofList_toList (s := header), hp, beq_iff_eq.mp hbeq]
          have hiff : some header = some (String.ofList (signaturePrefix ++ digits)) ↔
              digits' = digits := by
            rw [hheader, Option.some.injEq]
            constructor
            · exact fun h => List.append_cancel_left (String.ofList_injective h)
            · exact fun h => by rw [h]
          rw [hiff]
          show (if digits' ≠ [] ∧ digits'.all isHexDigit = true then some digits' else none) =
            some digits ↔ _
          split
          · next hok =>
              rw [List.all_eq_true] at hok
              constructor
              · intro h
                cases h
                exact ⟨rfl, hok⟩
              · rintro ⟨rfl, -⟩
                rfl
          · next hbad =>
              rw [List.all_eq_true] at hbad
              constructor
              · intro h
                cases h
              · rintro ⟨rfl, hok⟩
                exact absurd hok hbad

/-- Digits in pairs are read alike. -/
theorem bufferFromHex_of_hexDecode {digits : List Char} {bytes : Bytes}
    (h : hexDecode digits = some bytes) : bufferFromHex digits = bytes := by
  fun_induction hexDecode digits generalizing bytes with
  | case1 => cases h; rfl
  | case2 => cases h
  | case3 high low rest ih =>
      obtain ⟨hi, hhi, h⟩ := Option.bind_eq_some_iff.mp h
      obtain ⟨lo, hlo, h⟩ := Option.bind_eq_some_iff.mp h
      obtain ⟨tail, htail, h⟩ := Option.bind_eq_some_iff.mp h
      cases h
      simp only [bufferFromHex, hhi, hlo, ih htail]

theorem hexValue_of_isHexDigit {c : Char} (h : isHexDigit c = true) : ∃ n, hexValue c = some n :=
  Option.isSome_iff_exists.mp h

/-- An odd last digit is dropped, and the rest decodes. -/
theorem hexDecode_take : ∀ {digits : List Char}, (∀ c ∈ digits, isHexDigit c = true) →
    hexDecode (digits.take (2 * (digits.length / 2))) = some (bufferFromHex digits)
  | [], _ => rfl
  | [_], _ => by simp [hexDecode, bufferFromHex]
  | high :: low :: rest, hdigits => by
      obtain ⟨h, hhigh⟩ := hexValue_of_isHexDigit (hdigits high List.mem_cons_self)
      obtain ⟨l, hlow⟩ := hexValue_of_isHexDigit
        (hdigits low (List.mem_cons_of_mem _ List.mem_cons_self))
      have hrest : hexDecode (rest.take (2 * (rest.length / 2))) = some (bufferFromHex rest) :=
        hexDecode_take fun c hc =>
          hdigits c (List.mem_cons_of_mem _ (List.mem_cons_of_mem _ hc))
      have hlength : 2 * ((high :: low :: rest).length / 2) = 2 * (rest.length / 2) + 2 := by
        simp only [List.length_cons]
        omega
      rw [hlength, List.take_succ_cons, List.take_succ_cons, hexDecode, hhigh, hlow, hrest]
      simp only [bufferFromHex, hhigh, hlow]
      rfl

theorem length_of_hexDecode {digits : List Char} {bytes : Bytes}
    (h : hexDecode digits = some bytes) : digits.length = 2 * bytes.length := by
  fun_induction hexDecode digits generalizing bytes with
  | case1 => cases h; rfl
  | case2 => cases h
  | case3 high low rest ih =>
      obtain ⟨hi, -, h⟩ := Option.bind_eq_some_iff.mp h
      obtain ⟨lo, -, h⟩ := Option.bind_eq_some_iff.mp h
      obtain ⟨tail, htail, h⟩ := Option.bind_eq_some_iff.mp h
      cases h
      rw [List.length_cons, List.length_cons, List.length_cons, ih htail]
      omega

theorem length_bufferFromHex {digits : List Char}
    (hdigits : ∀ c ∈ digits, isHexDigit c = true) :
    (bufferFromHex digits).length = digits.length / 2 := by
  have hlength := length_of_hexDecode (hexDecode_take hdigits)
  rw [List.length_take] at hlength
  omega

section Accept

variable {hmacSha256 : Bytes → Bytes → Bytes} {rawBody : Bytes} {signatureHeader : Option String}
  {signingSecret : String}

theorem isSigningSecret_iff : isSigningSecret signingSecret = true ↔
    signingSecret.toList.length = 64 ∧ ∀ c ∈ signingSecret.toList, isHexDigit c = true := by
  rw [isSigningSecret, Bool.and_eq_true, beq_iff_eq, List.all_eq_true]

/-- A well-formed secret is read alike on both sides. -/
theorem hexDecode_signingSecret (h : isSigningSecret signingSecret = true) :
    hexDecode signingSecret.toList = some (bufferFromHex signingSecret.toList) := by
  obtain ⟨hlength, hdigits⟩ := isSigningSecret_iff.mp h
  have hdecode := hexDecode_take hdigits
  rw [List.take_of_length_le (by omega)] at hdecode
  exact hdecode

theorem verifyAlertSignatureTs_eq_true :
    verifyAlertSignatureTs hmacSha256 rawBody signatureHeader signingSecret = true ↔
      isSigningSecret signingSecret = true ∧ ∃ digits,
        signatureDigits signatureHeader = some digits ∧
        bufferFromHex digits = hmacSha256 (bufferFromHex signingSecret.toList) rawBody := by
  unfold verifyAlertSignatureTs
  cases signatureDigits signatureHeader with
  | none => simp
  | some digits =>
      cases isSigningSecret signingSecret with
      | false => simp
      | true =>
          simp only [if_true, Bool.and_eq_true, beq_iff_eq, Option.some.injEq, exists_eq_left',
            true_and]
          exact ⟨fun h => h.2, fun h => ⟨congrArg List.length h, h⟩⟩

theorem verifyAlertSignaturePy_eq_true :
    verifyAlertSignaturePy hmacSha256 rawBody signatureHeader signingSecret = true ↔
      isSigningSecret signingSecret = true ∧ ∃ digits,
        signatureDigits signatureHeader = some digits ∧
        hexDecode digits = some (hmacSha256 (bufferFromHex signingSecret.toList) rawBody) := by
  unfold verifyAlertSignaturePy
  cases signatureDigits signatureHeader with
  | none => simp
  | some digits =>
      cases hsecret : isSigningSecret signingSecret with
      | false => simp
      | true =>
          simp only [if_true, hexDecode_signingSecret hsecret, Option.some.injEq,
            exists_eq_left', true_and]
          cases hexDecode digits with
          | none => simp
          | some actual =>
              simp only [Bool.and_eq_true, beq_iff_eq, Option.some.injEq]
              exact ⟨fun h => h.2, fun h => ⟨congrArg List.length h, h⟩⟩

/-- The TypeScript receiver accepts what the Python receiver accepts, and besides these headers
only the same ones with one more hexadecimal digit at the end. -/
theorem verifyAlertSignatureTs_iff_py (hmac : ∀ key body, (hmacSha256 key body).length = 32) :
    verifyAlertSignatureTs hmacSha256 rawBody signatureHeader signingSecret = true ↔
      ∃ digits tail : List Char,
        signatureHeader = some (String.ofList (signaturePrefix ++ digits ++ tail)) ∧
        tail.length ≤ 1 ∧ (∀ c ∈ tail, isHexDigit c = true) ∧
        verifyAlertSignaturePy hmacSha256 rawBody
          (some (String.ofList (signaturePrefix ++ digits))) signingSecret = true := by
  simp only [verifyAlertSignatureTs_eq_true, verifyAlertSignaturePy_eq_true,
    signatureDigits_eq_some]
  constructor
  · rintro ⟨hsecret, digits, ⟨rfl, hne, hdigits⟩, hmacEq⟩
    have hhalf : digits.length / 2 = 32 := by
      rw [← length_bufferFromHex hdigits, hmacEq, hmac]
    refine ⟨digits.take 64, digits.drop 64, ?_, ?_, ?_, hsecret, digits.take 64, ⟨rfl, ?_, ?_⟩, ?_⟩
    · rw [List.append_assoc, List.take_append_drop]
    · rw [List.length_drop]
      omega
    · exact fun c hc => hdigits c (List.mem_of_mem_drop hc)
    · intro hnil
      have hlength := congrArg List.length hnil
      rw [List.length_take, List.length_nil] at hlength
      omega
    · exact fun c hc => hdigits c (List.mem_of_mem_take hc)
    · have hdecode := hexDecode_take hdigits
      rw [hhalf] at hdecode
      rw [hdecode, hmacEq]
  · rintro ⟨digits, tail, rfl, htail, htailDigits, hsecret, digits', ⟨hheader, hne, hdigits⟩,
      hdecode⟩
    have hsame : digits = digits' :=
      List.append_cancel_left (String.ofList_injective (Option.some.inj hheader))
    subst hsame
    have hall : ∀ c ∈ digits ++ tail, isHexDigit c = true := by
      intro c hc
      rcases List.mem_append.mp hc with hc | hc
      · exact hdigits c hc
      · exact htailDigits c hc
    refine ⟨hsecret, digits ++ tail, ⟨by rw [List.append_assoc], ?_, hall⟩, ?_⟩
    · exact fun hnil => hne (List.append_eq_nil_iff.mp hnil).1
    · have hbytes := bufferFromHex_of_hexDecode hdecode
      have hlength : digits.length = 64 := by
        rw [length_of_hexDecode hdecode, hmac]
      have htake := hexDecode_take hall
      have hhalf : 2 * ((digits ++ tail).length / 2) = 64 := by
        rw [List.length_append, hlength]
        omega
      rw [hhalf, ← hlength, List.take_left', hdecode] at htake
      exact (Option.some.inj htake).symm
      rfl

end Accept

/-- HMAC-SHA256 where the key is 32 bytes `0x0b` and the body is empty. -/
def sampleHmac (key body : Bytes) : Bytes :=
  if key = List.replicate 32 0x0b ∧ body = [] then
    [0x51, 0x77, 0xe6, 0x37, 0xaa, 0xac, 0x0b, 0x50, 0xe5, 0xdc, 0xa8, 0xbb, 0x05, 0xb0, 0xb5,
      0x71, 0x44, 0x4b, 0xd5, 0x9b, 0x9b, 0x0d, 0x83, 0x4d, 0x50, 0x68, 0x1a, 0xf2, 0x1f, 0xc1,
      0x4b, 0x1e]
  else List.replicate 32 0

theorem length_sampleHmac (key body : Bytes) : (sampleHmac key body).length = 32 := by
  unfold sampleHmac
  split
  · rfl
  · exact List.length_replicate

/-- The signature of the empty body, with a digit too many. -/
def sampleHeader : Option String :=
  some ("sha256=" ++ String.ofList (bytesToHex (sampleHmac (List.replicate 32 0x0b) [])) ++ "0")

/-- The secret with that key. -/
def webhookSecret : String := String.ofList (bytesToHex (List.replicate 32 0x0b))

/-- The TypeScript receiver drops the digit, the Python receiver refuses the header. -/
theorem verifyAlertSignatureTs_iff_py_sample :
    verifyAlertSignaturePy sampleHmac [] sampleHeader webhookSecret = false ∧
      ∃ digits tail : List Char,
        sampleHeader = some (String.ofList (signaturePrefix ++ digits ++ tail)) ∧
        tail.length ≤ 1 ∧ (∀ c ∈ tail, isHexDigit c = true) ∧
        verifyAlertSignaturePy sampleHmac [] (some (String.ofList (signaturePrefix ++ digits)))
          webhookSecret = true := by
  have haccepted : verifyAlertSignatureTs sampleHmac [] sampleHeader webhookSecret = true := by
    decide +kernel
  constructor
  · decide +kernel
  · exact (verifyAlertSignatureTs_iff_py length_sampleHmac).mp haccepted

end TxIndexer.Client
