import Mathlib.Algebra.Order.Ring.Int

/-!
# Validators

`crates/db/src/validators.rs`: which addresses and which webhook URLs a webhook may be sent to.
The URL parser is the `url` crate's, and the reading of an address literal is the standard
library's; both come in through `NetText`.
-/

namespace TxIndexer.Db

/-- `UnsafeUrlReason` (`validators.rs:10-33`). -/
inductive UnsafeUrlReason where
  | invalidUrl
  | nonHttps
  | noHost
  | loopbackHost
  | privateIp
  | linkLocalIp
  | unspecifiedIp
  | multicastIp
  | broadcastIp
  | uniqueLocalIp
  | mdnsHost
  deriving DecidableEq, Repr

/-- The derived `Debug` of `UnsafeUrlReason`. -/
def UnsafeUrlReason.debug : UnsafeUrlReason → String
  | .invalidUrl => "InvalidUrl"
  | .nonHttps => "NonHttps"
  | .noHost => "NoHost"
  | .loopbackHost => "LoopbackHost"
  | .privateIp => "PrivateIp"
  | .linkLocalIp => "LinkLocalIp"
  | .unspecifiedIp => "UnspecifiedIp"
  | .multicastIp => "MulticastIp"
  | .broadcastIp => "BroadcastIp"
  | .uniqueLocalIp => "UniqueLocalIp"
  | .mdnsHost => "MdnsHost"

/-- `std::net::IpAddr`, most significant octet first. -/
inductive IpAddr where
  | v4 (bits : BitVec 32)
  | v6 (bits : BitVec 128)
  deriving DecidableEq, Repr

/-- `Ipv6Addr::to_ipv4_mapped`: the address in `::ffff:0:0/96`. -/
def toIpv4Mapped (v6 : BitVec 128) : Option (BitVec 32) :=
  if v6.extractLsb' 32 96 = 0xffff#96 then some (v6.extractLsb' 0 32) else none

/-- The rules for an IPv4 address. -/
def ipv4IsSafe (v4 : BitVec 32) : Except UnsafeUrlReason Unit :=
  if v4.extractLsb' 24 8 = 127#8 then .error .loopbackHost
  else if v4 = 0#32 then .error .unspecifiedIp
  else if v4.extractLsb' 28 4 = 0xe#4 then .error .multicastIp
  else if v4.extractLsb' 24 8 = 10#8 ∨ v4.extractLsb' 20 12 = 0xac1#12 ∨
      v4.extractLsb' 16 16 = 0xc0a8#16 then .error .privateIp
  else if v4.extractLsb' 16 16 = 0xa9fe#16 then .error .linkLocalIp
  else if v4 = 0xffffffff#32 then .error .broadcastIp
  else .ok ()

/-- `ip_is_safe` (`validators.rs:35-89`). -/
def ipIsSafe : IpAddr → Except UnsafeUrlReason Unit
  | .v4 v4 => ipv4IsSafe v4
  | .v6 v6 =>
      match toIpv4Mapped v6 with
      | some v4 => ipv4IsSafe v4
      | none =>
          if v6 = 1#128 then .error .loopbackHost
          else if v6 = 0#128 then .error .unspecifiedIp
          else if v6.extractLsb' 120 8 = 0xff#8 then .error .multicastIp
          else if v6.extractLsb' 112 16 &&& 0xfe00#16 = 0xfc00#16 then .error .uniqueLocalIp
          else if v6.extractLsb' 112 16 &&& 0xffc0#16 = 0xfe80#16 then .error .linkLocalIp
          else .ok ()

/-- What the program reads of a parsed `url::Url`. -/
structure Url where
  scheme : String
  hostStr : Option String
  deriving DecidableEq, Repr

/-- `url::Url::parse` and `IpAddr::from_str`. -/
structure NetText where
  parseUrl : String → Option Url
  parseIp : String → Option IpAddr

/-- `host_raw.strip_prefix('[').and_then(|s| s.strip_suffix(']')).unwrap_or(host_raw)`. -/
def stripBrackets (hostRaw : String) : String :=
  match hostRaw.toList with
  | '[' :: rest => if rest.getLast? = some ']' then String.ofList rest.dropLast else hostRaw
  | _ => hostRaw

/-- `webhook_url_is_safe` (`validators.rs:102-129`). -/
def webhookUrlIsSafe (net : NetText) (input : String) : Except UnsafeUrlReason Unit :=
  match net.parseUrl input with
  | none => .error .invalidUrl
  | some parsed =>
      if parsed.scheme ≠ "https" then .error .nonHttps
      else
        match parsed.hostStr with
        | none => .error .noHost
        | some hostRaw =>
            if hostRaw = "" then .error .noHost
            else
              let host := stripBrackets hostRaw
              match net.parseIp host with
              | some ip => ipIsSafe ip
              | none =>
                  let hostLower := host.toList.map Char.toLower
                  if hostLower = "localhost".toList ∨ ".localhost".toList <:+ hostLower ∨
                      ".local".toList <:+ hostLower then .error .mdnsHost
                  else .ok ()

end TxIndexer.Db
