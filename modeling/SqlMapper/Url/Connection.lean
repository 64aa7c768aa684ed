import SqlMapper.Url.Domain

/-!
# Connection URLs

A connection URL is read as far as it can be wrong: its scheme, the user, the
host and the service number. The paths, queries and fragments of a URL are never wrong. Of
a URL that is right only the scheme matters.
-/

namespace SqlMapper.Url

/-- How the part after a scheme is read. -/
inductive SchemeKind where
  /-- A scheme of the web, whose host is an internet domain. -/
  | web
  | file
  | other
  deriving DecidableEq

/-- The kind of a scheme in small letters. -/
def SchemeKind.of (scheme : String) : SchemeKind :=
  if scheme ∈ ["http", "https", "ws", "wss", "ftp"] then web
  else if scheme = "file" then file
  else other

/-- The URL without blanks and control characters around it, and without tabs
and line ends inside it. -/
def cleaned (text : String) : List Char :=
  let isOuter := fun (char : Char) => char.toNat ≤ 0x20
  let trimmed := Text.dropTail isOuter (text.toList.dropWhile isOuter)
  trimmed.filter fun char => char != '\t' && char != '\n' && char != '\r'

/-- A character of a scheme after its first letter. -/
def isSchemeChar (char : Char) : Bool :=
  char.isAlphanum || char == '+' || char == '-' || char == '.'

/-- The scheme in small letters, and what follows its colon. -/
def splitScheme? (chars : List Char) : Option (String × List Char) :=
  let scheme := chars.takeWhile isSchemeChar
  match chars.dropWhile isSchemeChar with
  | ':' :: rest =>
    if scheme.head?.any Char.isAlpha then some (String.ofList (scheme.map Char.toLower), rest)
    else none
  | _ => none

/-- Whether a character ends the part with user, host and service number. -/
def endsAuthority (kind : SchemeKind) (char : Char) : Bool :=
  char == '/' || char == '?' || char == '#' || (kind != .other && char == '\\')

/-- What stands before and after the last at sign. -/
def splitUser? (authority : List Char) : Option (List Char × List Char) :=
  if authority.contains '@' then
    let host := (authority.reverse.takeWhile (· != '@')).reverse
    some (authority.take (authority.length - host.length - 1), host)
  else none

/-- The host at the start of `chars`: everything before a colon that is not
between brackets. -/
def hostOf (bracketed : Bool) : List Char → List Char
  | [] => []
  | char :: rest =>
    if char == ':' && !bracketed then []
    else
      let bracketed := char == '[' || (bracketed && char != ']')
      char :: hostOf bracketed rest

/-- Accepts a service number: digits for a number of at most sixteen bits, or
none. -/
def checkService (chars : List Char) : Except UrlFault Unit :=
  let digits := chars.takeWhile fun char => char != '\\'
  match Text.readNumber? 10 digits with
  | some number => if number ≤ 0xFFFF then .ok () else .error .invalidService
  | none => .error .invalidService

/-- Accepts a host with the service number after it. -/
def checkHostAndService (kind : SchemeKind) (chars : List Char) : Except UrlFault Unit := do
  let host := hostOf false chars
  let rest := chars.drop host.length
  if kind = .web then
    if host.isEmpty then throw .emptyHost
    checkDomain host
  else
    checkHost host
    if host.isEmpty && !rest.isEmpty then throw .emptyHost
  match rest with
  | ':' :: service => checkService service
  | _ => return

/-- Accepts what follows the two slashes: a user, a host and a service number, up
to the path. -/
def checkAuthority (kind : SchemeKind) (chars : List Char) : Except UrlFault Unit :=
  let authority := chars.takeWhile fun char => !endsAuthority kind char
  match splitUser? authority with
  | none => checkHostAndService kind authority
  | some (user, host) =>
    if user.isEmpty && host.isEmpty && authority.length < chars.length then .error .emptyHost
    else do
      checkHostAndService kind host
      if host.isEmpty && !user.isEmpty && user != [':'] then throw .emptyHost

/-- A letter and a colon or bar, which name a drive and not a host. -/
def isDrive (chars : List Char) : Bool :=
  match chars with
  | [letter, mark] => letter.isAlpha && (mark == ':' || mark == '|')
  | _ => false

/-- Accepts what follows the scheme of a file. -/
def checkFile (chars : List Char) : Except UrlFault Unit :=
  match chars with
  | first :: second :: rest =>
    let isSlash := fun (char : Char) => char == '/' || char == '\\'
    if isSlash first && isSlash second then
      let host := rest.takeWhile fun char => !endsAuthority .file char
      if host.isEmpty || isDrive host then .ok () else checkDomain host
    else .ok ()
  | _ => .ok ()

/-- The scheme of a connection URL. -/
def scheme (text : String) : Except UrlFault String :=
  match splitScheme? (cleaned text) with
  | none => .error .relative
  | some (scheme, rest) => do
    match SchemeKind.of scheme with
    | .file => checkFile rest
    | .web => checkAuthority .web (rest.dropWhile fun char => char == '/' || char == '\\')
    | .other =>
      match rest with
      | '/' :: '/' :: authority => checkAuthority .other authority
      | _ => return scheme
    return scheme

end SqlMapper.Url
