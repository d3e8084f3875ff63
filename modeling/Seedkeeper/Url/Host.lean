import Seedkeeper.Url.Address
import Seedkeeper.Url.DomainName
import Seedkeeper.Url.Percent

/-!
Hosts of addresses.

A special scheme's host is a domain name in its ASCII form, an IPv4 address in any spelling, or a
bracketed IPv6 address. Any other scheme keeps its host as it is written, bytes beyond ASCII
percent-encoded, and only brackets have a meaning.
-/

namespace Seedkeeper.Url

/-- Characters that no host may hold. -/
def isForbiddenInHost (c : Char) : Bool :=
  ['\x00', '\t', '\n', '\r', ' ', '#', '/', ':', '<', '>', '?', '@', '[', '\\', ']', '^',
    '|'].contains c

/-- Characters that no domain name may hold. -/
def isForbiddenInDomain (c : Char) : Bool :=
  isForbiddenInHost c || c == '%' || inControlSet c

/-- A bracketed IPv6 address, shown. -/
def bracketed? (host : List Char) : Option (List Char) :=
  match host with
  | '[' :: cs =>
    if cs.getLast? = some ']' then
      (ipv6? cs.dropLast).map fun gs => '[' :: ipv6Text gs ++ [']']
    else none
  | _ => none

/-- The host of a special scheme. -/
def specialHost? (host : List Char) : Option (List Char) :=
  if host.head? = some '[' then bracketed? host
  else do
    let decoded := Text.decodeLossy .none (percentDecode (Text.utf8 (String.ofList host)))
    let name ← DomainName.toAscii? decoded
    if name.isEmpty ∨ name.any isForbiddenInDomain then none
    else if endsInNumber name then (ipv4? name).map ipv4Text
    else some name

/-- The host of any other scheme. -/
def opaqueHost? (host : List Char) : Option (List Char) :=
  if host.head? = some '[' then bracketed? host
  else if host.any isForbiddenInHost then none
  else some (percentEncode inControlSet host)

end Seedkeeper.Url
