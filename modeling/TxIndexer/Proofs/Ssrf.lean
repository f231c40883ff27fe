import TxIndexer.Indexer.Connect
import TxIndexer.Indexer.AlertRuns
import TxIndexer.Lib.Cidr

/-!
# The dispatcher connects to no internal address

The URL check sees the addresses that are written in a URL and the resolver those a name stands
for. Both apply one rule, which refuses exactly the internal blocks, so between them they see
every address a connection can go to.
-/

namespace TxIndexer.Proofs

open Db Indexer Lib

/-! ## Internal addresses -/

/-- `a.b.c.d`. -/
def ipv4 (a b c d : BitVec 8) : BitVec 32 := a ++ b ++ c ++ d

/-- The IPv6 address that begins with a 16-bit group and is zero from there on. -/
def ipv6Prefix (group : BitVec 16) : BitVec 128 := group ++ 0#112

/-- `::ffff:a.b.c.d`. -/
def ipv4Mapped (a : BitVec 32) : BitVec 128 := 0xffff#96 ++ a

/-- The internal IPv4 blocks: loopback, private, link-local, unspecified, multicast, broadcast. -/
def internalV4 : List (BitVec 32 × Nat) := [
  (ipv4 127 0 0 0, 8), (ipv4 10 0 0 0, 8), (ipv4 172 16 0 0, 12), (ipv4 192 168 0 0, 16),
  (ipv4 169 254 0 0, 16), (ipv4 0 0 0 0, 32), (ipv4 224 0 0 0, 4), (ipv4 255 255 255 255, 32)]

/-- The internal IPv6 blocks: loopback, unspecified, multicast, unique-local, link-local. -/
def internalV6 : List (BitVec 128 × Nat) := [
  (1#128, 128), (0#128, 128), (ipv6Prefix 0xff00, 8), (ipv6Prefix 0xfc00, 7),
  (ipv6Prefix 0xfe80, 10)]

/-- An address in one of the internal blocks, or in the IPv4-mapped form of one. -/
def Internal : IpAddr → Prop
  | .v4 a => ∃ block ∈ internalV4, InCidr block.1 block.2 a
  | .v6 a => (∃ block ∈ internalV6, InCidr block.1 block.2 a) ∨
      ∃ block ∈ internalV4, InCidr (ipv4Mapped block.1) (96 + block.2) a

theorem refuse_eq_ok {p : Prop} [Decidable p] {reason : UnsafeUrlReason}
    {rest : Except UnsafeUrlReason Unit} :
    (if p then .error reason else rest) = .ok () ↔ ¬ p ∧ rest = .ok () := by
  by_cases hp : p <;> simp [hp]

/-- The IPv4 rules let through exactly the addresses outside the blocks. -/
theorem ipv4IsSafe_iff (a : BitVec 32) : ipv4IsSafe a = .ok () ↔ ¬ Internal (.v4 a) := by
  have hzero : a = 0#32 ↔ a.toNat = 0 := (BitVec.toNat_inj (y := 0#32)).symm
  have hones : a = 0xffffffff#32 ↔ a.toNat = 0xffffffff :=
    (BitVec.toNat_inj (y := 0xffffffff#32)).symm
  have h24 : ∀ c : BitVec 8, a.extractLsb' 24 8 = c ↔ a.toNat / 2 ^ 24 = c.toNat :=
    extractLsb'_top_eq_iff (rfl : 24 + 8 = 32) a
  have h28 : ∀ c : BitVec 4, a.extractLsb' 28 4 = c ↔ a.toNat / 2 ^ 28 = c.toNat :=
    extractLsb'_top_eq_iff (rfl : 28 + 4 = 32) a
  have h20 : ∀ c : BitVec 12, a.extractLsb' 20 12 = c ↔ a.toNat / 2 ^ 20 = c.toNat :=
    extractLsb'_top_eq_iff (rfl : 20 + 12 = 32) a
  have h16 : ∀ c : BitVec 16, a.extractLsb' 16 16 = c ↔ a.toNat / 2 ^ 16 = c.toNat :=
    extractLsb'_top_eq_iff (rfl : 16 + 16 = 32) a
  have hinternal : Internal (.v4 a) ↔ a.toNat / 2 ^ 24 = 127 ∨ a.toNat / 2 ^ 24 = 10 ∨
      a.toNat / 2 ^ 20 = 0xac1 ∨ a.toNat / 2 ^ 16 = 0xc0a8 ∨ a.toNat / 2 ^ 16 = 0xa9fe ∨
      a.toNat = 0 ∨ a.toNat / 2 ^ 28 = 0xe ∨ a.toNat = 0xffffffff := by
    simp [Internal, internalV4, InCidr, ipv4]
  rw [hinternal]
  simp only [ipv4IsSafe, refuse_eq_ok, hzero, hones, h24, h28, h20, h16, BitVec.toNat_ofNat,
    and_true]
  omega

/-- An address is in the IPv4-mapped form of a block when its leading 96 bits are those of the
form and the rest is in the block. -/
theorem inCidr_mapped (network : BitVec 32) {len : Nat} (hlen : len ≤ 32) (a : BitVec 128) :
    InCidr (ipv4Mapped network) (96 + len) a ↔
      a.extractLsb' 32 96 = 0xffff#96 ∧ InCidr network len (a.extractLsb' 0 32) := by
  have hmapped : (ipv4Mapped network).toNat = 0xffff * 2 ^ 32 + network.toNat := by
    rw [ipv4Mapped, BitVec.toNat_append, ← Nat.shiftLeft_add_eq_or_of_lt network.isLt,
      Nat.shiftLeft_eq]
    rfl
  have hlow : (a.extractLsb' 0 32).toNat = a.toNat % 2 ^ 32 := by
    rw [BitVec.extractLsb'_toNat, Nat.shiftRight_zero]
  rw [InCidr, InCidr, extractLsb'_top_eq_iff (rfl : 32 + 96 = 128), hmapped, hlow,
    show 128 - (96 + len) = 32 - len by omega]
  -- split both addresses at bit 32; the shift leaves the leading bits apart
  obtain ⟨m, hm⟩ : ∃ m, 2 ^ 32 = m * 2 ^ (32 - len) :=
    ⟨2 ^ len, by rw [← Nat.pow_add, Nat.add_sub_of_le hlen]⟩
  have hpos : 0 < 2 ^ (32 - len) := Nat.two_pow_pos _
  have hdiv : ∀ hi lo, (hi * 2 ^ 32 + lo) / 2 ^ (32 - len) = hi * m + lo / 2 ^ (32 - len) := by
    intro hi lo
    rw [hm, ← Nat.mul_assoc, Nat.add_comm, Nat.add_mul_div_right _ _ hpos, Nat.add_comm]
  have hlt : ∀ lo < 2 ^ 32, lo / 2 ^ (32 - len) < m := by
    intro lo hlo
    rwa [Nat.div_lt_iff_lt_mul hpos, ← hm]
  have hsplit : a.toNat = a.toNat / 2 ^ 32 * 2 ^ 32 + a.toNat % 2 ^ 32 := by omega
  have hx := hlt _ (Nat.mod_lt a.toNat (Nat.two_pow_pos 32))
  have hy := hlt _ network.isLt
  conv_lhs => rw [hsplit]
  rw [hdiv, hdiv]
  constructor
  · intro h
    have hquot := congrArg (· / m) h
    have hrem := congrArg (· % m) h
    simp only [Nat.mul_comm _ m, Nat.mul_add_div (Nat.zero_lt_of_lt hx), Nat.mul_add_mod,
      Nat.div_eq_of_lt hx, Nat.div_eq_of_lt hy, Nat.mod_eq_of_lt hx, Nat.mod_eq_of_lt hy,
      Nat.add_zero] at hquot hrem
    exact ⟨hquot, hrem⟩
  · rintro ⟨hhi, hlo⟩
    rw [hlo, hhi]
    rfl

/-- The rules let through exactly the addresses that are not internal. -/
theorem ipIsSafe_iff (ip : IpAddr) : ipIsSafe ip = .ok () ↔ ¬ Internal ip := by
  cases ip with
  | v4 a => exact ipv4IsSafe_iff a
  | v6 a =>
      have hone : a = 1#128 ↔ a.toNat = 1 := (BitVec.toNat_inj (y := 1#128)).symm
      have hzero : a = 0#128 ↔ a.toNat = 0 := (BitVec.toNat_inj (y := 0#128)).symm
      have h120 : ∀ c : BitVec 8, a.extractLsb' 120 8 = c ↔ a.toNat / 2 ^ 120 = c.toNat :=
        extractLsb'_top_eq_iff (rfl : 120 + 8 = 128) a
      have hgroup : (a.extractLsb' 112 16).toNat = a.toNat / 2 ^ 112 :=
        (extractLsb'_top_eq_iff (rfl : 112 + 16 = 128) a _).mp rfl |>.symm
      have hunique : a.extractLsb' 112 16 &&& 0xfe00#16 = 0xfc00#16 ↔
          a.toNat / 2 ^ 112 / 2 ^ 9 = 0x7e := by
        rw [← hgroup]
        exact and_mask_eq_iff (a.extractLsb' 112 16) 0xfc00#16 9
      have hlink : a.extractLsb' 112 16 &&& 0xffc0#16 = 0xfe80#16 ↔
          a.toNat / 2 ^ 112 / 2 ^ 6 = 0x3fa := by
        rw [← hgroup]
        exact and_mask_eq_iff (a.extractLsb' 112 16) 0xfe80#16 6
      have hmapped : (∃ block ∈ internalV4, InCidr (ipv4Mapped block.1) (96 + block.2) a) ↔
          a.extractLsb' 32 96 = 0xffff#96 ∧ Internal (.v4 (a.extractLsb' 0 32)) := by
        have hlen : ∀ block ∈ internalV4, block.2 ≤ 32 := by decide
        rw [Internal, ← exists_and_left]
        refine exists_congr fun block => ?_
        rw [and_left_comm]
        exact and_congr_right fun hblock => inCidr_mapped block.1 (hlen block hblock) a
      have hinternal : (∃ block ∈ internalV6, InCidr block.1 block.2 a) ↔
          a.toNat = 1 ∨ a.toNat = 0 ∨ a.toNat / 2 ^ 120 = 0xff ∨ a.toNat / 2 ^ 121 = 0x7e ∨
            a.toNat / 2 ^ 118 = 0x3fa := by
        simp [internalV6, InCidr, ipv6Prefix]
      rw [Internal, hmapped, hinternal]
      unfold ipIsSafe toIpv4Mapped
      by_cases hform : a.extractLsb' 32 96 = 0xffff#96
      · have htop : a.toNat / 2 ^ 32 = 0xffff :=
          (extractLsb'_top_eq_iff (rfl : 32 + 96 = 128) a _).mp hform
        simp only [hform, if_true, true_and, ipv4IsSafe_iff]
        constructor
        · rintro hsafe (hv6 | hv4)
          · omega
          · exact hsafe hv4
        · exact fun hout hv4 => hout (.inr hv4)
      · simp only [hform, if_false, false_and, or_false, refuse_eq_ok, hone, hzero, h120, hunique,
          hlink, BitVec.toNat_ofNat, and_true]
        omega

/-! ## Connections -/

/-- A URL that passes the check names no unsafe address as its host. -/
theorem ipIsSafe_of_webhookUrlIsSafe {net : NetText} {url host : String} {ip : IpAddr}
    (h : webhookUrlIsSafe net url = .ok ()) (hhost : (net.parseUrl url).bind Url.hostStr = some host)
    (hip : net.parseIp (stripBrackets host) = some ip) : ipIsSafe ip = .ok () := by
  obtain ⟨parsed, hparsed, hstr⟩ := Option.bind_eq_some_iff.mp hhost
  simp only [webhookUrlIsSafe, hparsed, hstr, hip, refuse_eq_ok] at h
  exact h.2.2

/-- Whatever the operating system answers for a name at the time, a request that is sent connects
to no internal address, and to none at all when the answer has an internal one. -/
theorem connects_to_no_internal_address {κ : Type} {env : AlertEnv κ} {client : HttpClient}
    (hcanonical : CanonicalHosts env.net client) {request : WebhookRequest}
    (hsent : Sends env request) (answer : String → Except String (List IpAddr)) :
    (∀ ip ∈ connectTargets env.net client answer request.url, ¬ Internal ip) ∧
    ∀ host addrs, (env.net.parseUrl request.url).bind Url.hostStr = some host →
      client.literal host = none → answer host = .ok addrs → (∃ ip ∈ addrs, Internal ip) →
      connectTargets env.net client answer request.url = [] := by
  constructor
  · intro ip hip
    rw [← ipIsSafe_iff]
    unfold connectTargets at hip
    cases hhost : (env.net.parseUrl request.url).bind Url.hostStr with
    | none => rw [hhost] at hip; cases hip
    | some host =>
        rw [hhost] at hip
        cases hliteral : client.literal host with
        | some target =>
            simp only [hliteral, List.mem_singleton] at hip
            subst hip
            exact ipIsSafe_of_webhookUrlIsSafe hsent.url hhost
              (hcanonical request.url host ip hhost hliteral)
        | none =>
            simp only [hliteral] at hip
            cases hresolve : safeResolve client (answer host) with
            | error e => rw [hresolve] at hip; cases hip
            | ok addrs =>
                rw [hresolve] at hip
                exact (safeResolve_eq_ok.mp hresolve).2 ip hip
  · rintro host addrs hhost hliteral hanswer ⟨ip, hip, hinternal⟩
    have hrefused : ∀ found, safeResolve client (answer host) ≠ .ok found := by
      intro found hfound
      obtain ⟨hsame, hsafe⟩ := safeResolve_eq_ok.mp hfound
      rw [hanswer, Except.ok.injEq] at hsame
      subst hsame
      exact (ipIsSafe_iff ip).mp (hsafe ip hip) hinternal
    simp only [connectTargets, hhost, hliteral]
    cases hresolve : safeResolve client (answer host) with
    | error e => rfl
    | ok found => exact absurd hresolve (hrefused found)

/-- A client that takes `example.com` for a name and displays a loopback address. -/
def sampleClient : HttpClient where
  literal := fun _ => none
  displayIp := fun _ => "127.0.0.1"

/-- A request to `https://example.com/hook`, whose name has come to stand for a public and a
loopback address, connects to neither. -/
theorem mixed_answer_refused : ∃ request, Sends sampleEnv request ∧
    connectTargets sampleEnv.net sampleClient
      (fun _ => .ok [.v4 (ipv4 93 184 216 34), .v4 (ipv4 127 0 0 1)]) request.url = [] := by
  have hstep : TaskStep sampleEnv 0 (fun _ => none) ⟨sampleMatch 1, .claimed 0⟩ (.post _)
      (fun _ => none) (some ⟨sampleMatch 1, .posting 0⟩) :=
    .post (prepareRequest_sampleMatch 1)
  have hsent : Sends sampleEnv _ := .inl ⟨_, _, _, _, _, hstep⟩
  have hcanonical : CanonicalHosts sampleEnv.net sampleClient := by
    intro url host ip _ hliteral
    cases hliteral
  have hloopback : Internal (.v4 (ipv4 127 0 0 1)) := ⟨_, List.mem_cons_self, by decide⟩
  exact ⟨_, hsent, (connects_to_no_internal_address hcanonical hsent _).2 "example.com" _ rfl rfl
    rfl ⟨_, List.mem_cons_of_mem _ List.mem_cons_self, hloopback⟩⟩

end TxIndexer.Proofs
