import OpenApiTools.Url.Domain.Basic

/-!
# Hosts

What may stand for a host in a URL: an IPv6 address in brackets, an IPv4 address or a domain name.
Schemes that are not of the web have opaque hosts, of which only the characters matter.
-/

namespace OpenApiTools.Url

/-- Whether a text may be a host, of the web or opaque. -/
def isHost (ofWeb : Bool) (host : List Char) : Bool :=
  match host with
  | '[' :: rest => rest.getLast? == some ']' && isIpv6 rest.dropLast
  | _ => if ofWeb then isDomain host else !host.any isForbidden

end OpenApiTools.Url
