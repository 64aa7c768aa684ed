import SqlMapper.Text.Direction
import SqlMapper.Url.Address
import SqlMapper.Url.Label

/-!
# Host names

Which host names a connection URL may have. The host of a scheme of the web is
an internet domain: escapes are decoded, the domain is brought to its form, and
what remains must be made of labels without delimiters, must not mix directions,
and must be an address when it ends in a number. Any other host only has to be free
of delimiters.
-/

namespace SqlMapper.Url

/-- Why a connection URL is not one. -/
inductive UrlFault where
  | relative
  | emptyHost
  | invalidService
  | invalidDomain
  | invalidCharacter
  | invalidAddressFour
  | invalidAddressSix
  deriving DecidableEq

def UrlFault.message : UrlFault → String
  | relative => "relative URL without a base"
  | emptyHost => "empty host"
  | invalidService => "invalid port number"
  | invalidDomain => "invalid international domain name"
  | invalidCharacter => "invalid domain character"
  | invalidAddressFour => "invalid IPv4 address"
  | invalidAddressSix => "invalid IPv6 address"

/-- A character that no host may hold. -/
def isHostDelimiter (char : Char) : Bool :=
  "\x00\t\n\r #/:<>?@[\\]^|".toList.contains char

/-- A character that no internet domain may hold. -/
def isDomainDelimiter (char : Char) : Bool :=
  isHostDelimiter char || char.toNat ≤ 0x20 || char == '%' || char.toNat == 0x7F

/-- The bytes of a text, with escapes of a percent sign and two hexadecimal
digits decoded. -/
def decodeEscapes : List Char → List UInt8
  | '%' :: high :: low :: rest =>
    match Text.hexValue? high, Text.hexValue? low with
    | some high, some low => UInt8.ofNat (16 * high + low) :: decodeEscapes rest
    | _, _ => '%'.toUInt8 :: decodeEscapes (high :: low :: rest)
  | char :: rest => (String.singleton char).toUTF8.toList ++ decodeEscapes rest
  | [] => []

/-- Whether the labels of a domain keep their look beside each other: where one of
them is written from right to left, each of them keeps to one direction. -/
def directionsAgree (labels : List (List Char)) : Bool :=
  let directions := labels.map fun label => label.map Text.direction
  !(directions.any fun label => label.any Text.Direction.isReversed) ||
    directions.all Text.keepsDirection

/-- Whether the form of a domain is made of labels, without delimiters. -/
def isDomain (domain : List Char) : Bool :=
  match (Text.splitOn '.' domain).mapM readLabel? with
  | none => false
  | some labels => !domain.any isDomainDelimiter && labels.all isLabel && directionsAgree labels

/-- Accepts the host of a scheme of the web. -/
def checkDomain (host : List Char) : Except UrlFault Unit :=
  if host.head? == some '[' then
    if host.getLast? == some ']' && isAddressSix (host.drop 1).dropLast then .ok ()
    else .error .invalidAddressSix
  else
    match String.fromUTF8? ⟨(decodeEscapes host).toArray⟩ with
    | none => .error .invalidDomain
    | some decoded =>
      match domainForm? decoded.toList with
      | none => .error .invalidDomain
      | some domain =>
        if !isDomain domain then .error .invalidDomain
        else if domain.isEmpty then .error .emptyHost
        else if endsInNumber domain && !isAddressFour domain then .error .invalidAddressFour
        else .ok ()

/-- Accepts the host of any other scheme. -/
def checkHost (host : List Char) : Except UrlFault Unit :=
  if host.head? == some '[' then
    if host.getLast? == some ']' && isAddressSix (host.drop 1).dropLast then .ok ()
    else .error .invalidAddressSix
  else if host.any isHostDelimiter then .error .invalidCharacter
  else .ok ()

end SqlMapper.Url
