/-!
# What can be wrong with a URL

* `Url.Fault` : why a text is no URL, or cannot be resolved.
* `Url.Fault.message` : the words for it.
-/

namespace MangaReader.Url

inductive Fault where
  | emptyHost
  | invalidDomainName
  | invalidPort
  | invalidIpv4
  | invalidIpv6
  | invalidDomainCharacter
  | relativeWithoutBase
  | unresolvable
  deriving DecidableEq, Repr

def Fault.message : Fault → String
  | .emptyHost => "empty host"
  | .invalidDomainName => "invalid international domain name"
  | .invalidPort => "invalid port number"
  | .invalidIpv4 => "invalid IPv4 address"
  | .invalidIpv6 => "invalid IPv6 address"
  | .invalidDomainCharacter => "invalid domain character"
  | .relativeWithoutBase => "relative URL without a base"
  | .unresolvable => "relative URL with a cannot-be-a-base base"

end MangaReader.Url
