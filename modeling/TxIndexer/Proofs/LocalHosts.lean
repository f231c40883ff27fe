import Mathlib.Data.Bool.AllAny
import TxIndexer.Db.Validators
import TxIndexer.Std.Hex

/-!
# Local host names of a webhook URL

`webhook_url_is_safe` refuses the names under `localhost` and `local`. A domain name may be
written with a dot after its last label, and the comparison does not take that dot off.
-/

namespace TxIndexer.Proofs

open Db

/-- `url::Host`: a URL's host as the URL parser reads it. -/
inductive UrlHost where
  | domain (name : String)
  | ipv4 (bits : BitVec 32)
  | ipv6 (bits : BitVec 128)

/-- What `host_str` gives for a host, `display` being the `Display` of an address. -/
def UrlHost.text (display : IpAddr → String) : UrlHost → String
  | .domain name => name
  | .ipv4 bits => display (.v4 bits)
  | .ipv6 bits => "[" ++ display (.v6 bits) ++ "]"

/-- The characters an address literal may have. -/
def addressChars : List Char := hexDigits ++ ['A', 'B', 'C', 'D', 'E', 'F', ':', '.']

/-- `Display` and `FromStr` of an address: what is displayed is read back, and nothing else than
digits, colons and dots is read. -/
structure AddressText (net : NetText) (display : IpAddr → String) : Prop where
  read : ∀ ip, net.parseIp (display ip) = some ip
  ne_empty : ∀ ip, display ip ≠ ""
  chars : ∀ text ip, net.parseIp text = some ip → ∀ c ∈ text.toList, c ∈ addressChars

/-! ## Domain names -/

/-- The text of a domain name: its labels with a dot between them. -/
def domainName (labels : List (List Char)) : List Char := ['.'].intercalate labels

/-- The labels of `localhost`, of a name under it, or of a name under `local`. -/
def LocalLabels (labels : List (List Char)) : Prop :=
  (∀ label ∈ labels, '.' ∉ label) ∧ ∃ leading,
    labels = leading ++ ["localhost".toList] ∨ leading ≠ [] ∧ labels = leading ++ ["local".toList]

/-- `name`, in any letter case, is a local name without the root dot. -/
def LocalName (name : String) : Prop :=
  ∃ labels, LocalLabels labels ∧ name.toList.map Char.toLower = domainName labels

/-- `name`, in any letter case, is a local name with the root dot. -/
def RootDottedLocalName (name : String) : Prop :=
  ∃ labels, LocalLabels labels ∧ name.toList.map Char.toLower = domainName labels ++ ['.']

/-- A local name is refused, and an address is judged by `ip_is_safe`. -/
def HostJudged (net : NetText) (url : String) : UrlHost → Prop
  | .domain name => LocalName name ∨ RootDottedLocalName name →
      ∃ reason, webhookUrlIsSafe net url = .error reason
  | .ipv4 bits => webhookUrlIsSafe net url = ipIsSafe (.v4 bits)
  | .ipv6 bits => webhookUrlIsSafe net url = ipIsSafe (.v6 bits)

theorem domainName_append {leading trailing : List (List Char)} (hleading : leading ≠ [])
    (htrailing : trailing ≠ []) :
    domainName (leading ++ trailing) = domainName leading ++ '.' :: domainName trailing := by
  unfold domainName
  induction leading with
  | nil => exact absurd rfl hleading
  | cons label leading ih =>
      rw [List.cons_append, List.intercalate_cons_of_ne_nil (by simp [htrailing])]
      by_cases hlast : leading = []
      · simp [hlast]
      · simp [ih hlast, List.intercalate_cons_of_ne_nil hlast]

theorem domainName_concat {leading : List (List Char)} (h : leading ≠ []) (last : List Char) :
    domainName (leading ++ [last]) = domainName leading ++ '.' :: last := by
  rw [domainName_append h (List.cons_ne_nil last [])]
  simp [domainName]

/-- The three tests of the source cover the local names. -/
theorem localLabels_tests {labels : List (List Char)} (h : LocalLabels labels) :
    domainName labels = "localhost".toList ∨ ".localhost".toList <:+ domainName labels ∨
      ".local".toList <:+ domainName labels := by
  obtain ⟨-, leading, rfl | ⟨hleading, rfl⟩⟩ := h
  · by_cases hleading : leading = []
    · subst hleading
      exact .inl (by simp [domainName])
    · rw [domainName_concat hleading]
      exact .inr (.inl (List.suffix_append _ _))
  · rw [domainName_concat hleading]
    exact .inr (.inr (List.suffix_append _ _))

/-- A local name ends in the letter `t` or `l`. -/
theorem getLast?_of_tests {name : List Char}
    (h : name = "localhost".toList ∨ ".localhost".toList <:+ name ∨ ".local".toList <:+ name) :
    name.getLast? = some 't' ∨ name.getLast? = some 'l' := by
  rcases h with rfl | ⟨stem, rfl⟩ | ⟨stem, rfl⟩
  · exact .inl rfl
  · rw [List.getLast?_append]
    exact .inl rfl
  · rw [List.getLast?_append]
    exact .inr rfl

/-- A local name has a letter that no address has. -/
theorem localLabels_foreign {labels : List (List Char)} (h : LocalLabels labels) :
    'l' ∈ domainName labels := by
  rcases localLabels_tests h with heq | hsuffix | hsuffix
  · rw [heq]
    decide
  · exact hsuffix.subset (by decide)
  · exact hsuffix.subset (by decide)

/-! ## The host that is judged -/

/-- A text that neither is an address nor stands in brackets is judged by its name. -/
theorem webhookUrlIsSafe_name {net : NetText} {url name : String} {parsed : Url}
    (hparse : net.parseUrl url = some parsed) (hhttps : parsed.scheme = "https")
    (hhost : parsed.hostStr = some name) (hname : name ≠ "")
    (hbare : stripBrackets name = name) (hparseIp : net.parseIp name = none) :
    webhookUrlIsSafe net url =
      if name.toList.map Char.toLower = "localhost".toList ∨
          ".localhost".toList <:+ name.toList.map Char.toLower ∨
          ".local".toList <:+ name.toList.map Char.toLower then .error .mdnsHost
      else .ok () := by
  simp only [webhookUrlIsSafe, hparse, hhttps, hhost, hname, hbare, hparseIp, ne_eq,
    not_true_eq_false, if_false]

theorem webhookUrlIsSafe_address {net : NetText} {url host : String} {parsed : Url} {ip : IpAddr}
    (hparse : net.parseUrl url = some parsed) (hhttps : parsed.scheme = "https")
    (hhost : parsed.hostStr = some host) (hname : host ≠ "")
    (hip : net.parseIp (stripBrackets host) = some ip) :
    webhookUrlIsSafe net url = ipIsSafe ip := by
  simp only [webhookUrlIsSafe, hparse, hhttps, hhost, hname, hip, ne_eq, not_true_eq_false,
    if_false]

theorem stripBrackets_of_getLast? {name : String} (h : name.toList.getLast? ≠ some ']') :
    stripBrackets name = name := by
  unfold stripBrackets
  split
  · next rest hlist =>
      rw [if_neg]
      intro hlast
      rw [hlist, List.getLast?_cons, hlast] at h
      exact h rfl
  · rfl

theorem stripBrackets_brackets (text : String) : stripBrackets ("[" ++ text ++ "]") = text := by
  have hlist : ("[" ++ text ++ "]").toList = '[' :: (text.toList ++ [']']) := by simp
  rw [stripBrackets, hlist]
  simp

section

variable {net : NetText} {display : IpAddr → String}

/-- No address holds the letter `l`, in either case. -/
theorem AddressText.parseIp_eq_none (haddress : AddressText net display) {name : String}
    (h : 'l' ∈ name.toList.map Char.toLower) :
    net.parseIp name = none := by
  have hfree : ∀ c ∈ addressChars, c.toLower ≠ 'l' := List.all_iff_forall_prop.mp (by decide)
  cases hip : net.parseIp name with
  | none => rfl
  | some ip =>
      obtain ⟨c, hc, hlower⟩ := List.mem_map.mp h
      exact absurd hlower (hfree c (haddress.chars name ip hip c hc))

/-- An address has no brackets of its own. -/
theorem AddressText.stripBrackets_display (haddress : AddressText net display) (ip : IpAddr) :
    stripBrackets (display ip) = display ip := by
  apply stripBrackets_of_getLast?
  intro hlast
  have hmem : ']' ∈ addressChars :=
    haddress.chars _ ip (haddress.read ip) _ (List.mem_of_getLast? hlast)
  exact absurd hmem (by decide)

/-- The name of a host that a local name is judged by, whatever follows its last label. -/
theorem webhookUrlIsSafe_local (haddress : AddressText net display) {url name : String}
    {parsed : Url}
    (hparse : net.parseUrl url = some parsed) (hhttps : parsed.scheme = "https")
    (hhost : parsed.hostStr = some name) (hletter : 'l' ∈ name.toList.map Char.toLower)
    (hlast : (name.toList.map Char.toLower).getLast? ≠ some ']') :
    webhookUrlIsSafe net url =
      if name.toList.map Char.toLower = "localhost".toList ∨
          ".localhost".toList <:+ name.toList.map Char.toLower ∨
          ".local".toList <:+ name.toList.map Char.toLower then .error .mdnsHost
      else .ok () := by
  apply webhookUrlIsSafe_name hparse hhttps hhost
  · rintro rfl
    simp at hletter
  · apply stripBrackets_of_getLast?
    intro hbracket
    rw [List.getLast?_map, hbracket] at hlast
    exact hlast (by decide)
  · exact haddress.parseIp_eq_none hletter

theorem localName_refused {url name : String} {parsed : Url} (haddress : AddressText net display)
    (hparse : net.parseUrl url = some parsed) (hhttps : parsed.scheme = "https")
    (hhost : parsed.hostStr = some name) (hlocal : LocalName name) :
    ∃ reason, webhookUrlIsSafe net url = .error reason := by
  obtain ⟨labels, hlabels, hname⟩ := hlocal
  have htests := localLabels_tests hlabels
  have hlast : (name.toList.map Char.toLower).getLast? ≠ some ']' := by
    rw [hname]
    rcases getLast?_of_tests htests with hlast | hlast
    · simp [hlast]
    · simp [hlast]
  have hjudged := webhookUrlIsSafe_local haddress hparse hhttps hhost
    (hname ▸ localLabels_foreign hlabels) hlast
  rw [hname, if_pos htests] at hjudged
  exact ⟨_, hjudged⟩

/-- The root dot hides a local name from all three tests. -/
theorem rootDottedLocalName_passes {url name : String} (parsed : Url)
    (haddress : AddressText net display) (hparse : net.parseUrl url = some parsed)
    (hhttps : parsed.scheme = "https") (hhost : parsed.hostStr = some name)
    (hlocal : RootDottedLocalName name) : webhookUrlIsSafe net url = .ok () := by
  obtain ⟨labels, hlabels, hname⟩ := hlocal
  have hlast : (domainName labels ++ ['.']).getLast? = some '.' := by simp
  have hjudged := webhookUrlIsSafe_local haddress hparse hhttps hhost
    (hname ▸ List.mem_append_left _ (localLabels_foreign hlabels)) (by simp [hname])
  rw [hname, if_neg] at hjudged
  · exact hjudged
  · intro htests
    rcases getLast?_of_tests htests with h | h
    · rw [hlast] at h
      exact absurd h (by decide)
    · rw [hlast] at h
      exact absurd h (by decide)

/-- Hosts are judged as they should be exactly when they are not a local name with the root dot. -/
theorem host_judged_iff {url : String} (parsed : Url) {host : UrlHost}
    (haddress : AddressText net display)
    (hparse : net.parseUrl url = some parsed) (hhttps : parsed.scheme = "https")
    (hhost : parsed.hostStr = some (host.text display)) :
    HostJudged net url host ↔ ∀ name, host = .domain name → ¬ RootDottedLocalName name := by
  cases host with
  | ipv4 bits =>
      refine iff_of_true ?_ nofun
      apply webhookUrlIsSafe_address hparse hhttps hhost (haddress.ne_empty _)
      rw [UrlHost.text, haddress.stripBrackets_display]
      exact haddress.read _
  | ipv6 bits =>
      refine iff_of_true ?_ nofun
      apply webhookUrlIsSafe_address hparse hhttps hhost
      · simp [UrlHost.text]
      · rw [UrlHost.text, stripBrackets_brackets]
        exact haddress.read _
  | domain name =>
      constructor
      · intro hjudged name' hname hdotted
        cases hname
        obtain ⟨reason, herror⟩ := hjudged (.inr hdotted)
        rw [rootDottedLocalName_passes parsed haddress hparse hhttps hhost hdotted] at herror
        cases herror
      · rintro hplain (hlocal | hdotted)
        · exact localName_refused haddress hparse hhttps hhost hlocal
        · exact absurd hdotted (hplain name rfl)

end

/-! ## A name with the root dot -/

/-- `Display` of an address, for `::1` as it is and for any other as its bits. -/
def shownAddress : IpAddr → String
  | .v4 bits => String.ofList (hexFixed 8 bits.toNat)
  | .v6 bits => if bits = 1#128 then "::1" else String.ofList (hexFixed 32 bits.toNat)

/-- Reads back what `shownAddress` shows. -/
def readAddress (text : String) : Option IpAddr :=
  if text = "::1" then some (.v6 1#128)
  else if text.toList.all (· ∈ addressChars) then
    if text.toList.length = 8 then (hexNat text.toList).map fun n => .v4 (.ofNat 32 n)
    else if text.toList.length = 32 then (hexNat text.toList).map fun n => .v6 (.ofNat 128 n)
    else none
  else none

/-- A network with those addresses, and the URLs of two hosts. -/
def twoUrls : NetText where
  parseUrl url :=
    if url = "https://[::1]/hook" then some ⟨"https", some "[::1]"⟩
    else if url = "https://LocalHost./hook" then some ⟨"https", some "localhost."⟩
    else none
  parseIp := readAddress

theorem readAddress_of_hex {digits : List Char} (hdigits : ∀ c ∈ digits, c ∈ hexDigits) :
    readAddress (String.ofList digits) =
      if digits.length = 8 then (hexNat digits).map fun n => .v4 (.ofNat 32 n)
      else if digits.length = 32 then (hexNat digits).map fun n => .v6 (.ofNat 128 n)
      else none := by
  have hloopback : String.ofList digits ≠ "::1" := by
    intro h
    have hcolon : ':' ∈ digits := by
      rw [← String.toList_ofList (l := digits), h]
      decide
    exact absurd (hdigits ':' hcolon) (by decide)
  have hall : digits.all (· ∈ addressChars) := by
    rw [List.all_eq_true]
    intro c hc
    simp [addressChars, hdigits c hc]
  rw [readAddress, if_neg hloopback, String.toList_ofList, if_pos hall]

theorem twoUrls_parseIp : twoUrls.parseIp = readAddress := rfl

theorem addressText_twoUrls : AddressText twoUrls shownAddress where
  read ip := by
    rw [twoUrls_parseIp]
    cases ip with
    | v4 bits =>
        have hbits : bits.toNat < 16 ^ 8 := bits.isLt
        rw [shownAddress, readAddress_of_hex fun c => mem_hexDigits_of_mem_hexFixed,
          length_hexFixed, if_pos rfl, hexNat_hexFixed, Nat.mod_eq_of_lt hbits]
        simp
    | v6 bits =>
        have hbits : bits.toNat < 16 ^ 32 := bits.isLt
        by_cases hloopback : bits = 1#128
        · rw [shownAddress, if_pos hloopback, hloopback, readAddress, if_pos rfl]
        · rw [shownAddress, if_neg hloopback,
            readAddress_of_hex fun c => mem_hexDigits_of_mem_hexFixed, length_hexFixed,
            if_neg (by decide), if_pos rfl, hexNat_hexFixed, Nat.mod_eq_of_lt hbits]
          simp
  ne_empty ip := by
    have hlist : (shownAddress ip).toList ≠ [] := by
      cases ip with
      | v4 bits =>
          rw [shownAddress, String.toList_ofList, ← List.length_pos_iff, length_hexFixed]
          decide
      | v6 bits =>
          rw [shownAddress]
          split
          · decide
          · rw [String.toList_ofList, ← List.length_pos_iff, length_hexFixed]
            decide
    intro hempty
    rw [hempty] at hlist
    exact hlist rfl
  chars text ip h := by
    by_cases hloopback : text = "::1"
    · rw [hloopback]
      exact List.all_iff_forall_prop.mp (by decide)
    · by_cases hall : text.toList.all (· ∈ addressChars)
      · simpa using hall
      · rw [twoUrls_parseIp, readAddress, if_neg hloopback,
          if_neg hall] at h
        cases h

/-- Of the two hosts, the address is judged as it should be, and the name is not. -/
theorem host_judged_iff_twoUrls :
    (HostJudged twoUrls "https://[::1]/hook" (.ipv6 1#128) ↔
      ∀ name, UrlHost.ipv6 1#128 = .domain name → ¬ RootDottedLocalName name) ∧
    (HostJudged twoUrls "https://LocalHost./hook" (.domain "localhost.") ↔
      ∀ name, UrlHost.domain "localhost." = .domain name → ¬ RootDottedLocalName name) :=
  ⟨host_judged_iff ⟨"https", some "[::1]"⟩ addressText_twoUrls rfl rfl rfl,
    host_judged_iff ⟨"https", some "localhost."⟩ addressText_twoUrls rfl rfl rfl⟩

/-- `localhost` with the root dot is let through. -/
theorem rootDotted_localhost_passes :
    webhookUrlIsSafe twoUrls "https://LocalHost./hook" = .ok () ∧
      ¬ HostJudged twoUrls "https://LocalHost./hook" (.domain "localhost.") := by
  have hdotted : RootDottedLocalName "localhost." :=
    ⟨["localhost".toList], ⟨by decide, [], .inl rfl⟩, by decide⟩
  have hpasses : webhookUrlIsSafe twoUrls "https://LocalHost./hook" = .ok () :=
    rootDottedLocalName_passes ⟨"https", some "localhost."⟩ addressText_twoUrls rfl rfl rfl hdotted
  refine ⟨hpasses, ?_⟩
  intro hjudged
  obtain ⟨reason, herror⟩ := hjudged (.inr hdotted)
  rw [hpasses] at herror
  cases herror

end TxIndexer.Proofs
