import RepoSurvey.Text.Trim

/-!
# Addresses of the web

An address is read leniently: characters that cannot stand in it are escaped, and the parts of its path
that mean the same directory or the one above it are worked out.  It is written in one way only.
-/

namespace RepoSurvey.Web

structure Address where
  scheme : String
  host : String
  /-- The port, if it is not the usual one of the scheme. -/
  port : Option Nat := none
  /-- The path, which starts with a slash. -/
  path : String
  query : Option String := none
  fragment : Option String := none
  deriving BEq, DecidableEq, Repr

namespace Address

/-- What is asked for at the host. -/
def target (address : Address) : String :=
  address.path ++ (address.query.elim "" ("?" ++ ·))

def text (address : Address) : String :=
  let port := address.port.elim "" fun port => ":" ++ toString port
  address.scheme ++ "://" ++ address.host ++ port ++ address.target ++
    address.fragment.elim "" ("#" ++ ·)

/-- Schemes whose addresses always name a host, and their usual ports. -/
def usualPorts : List (String × Nat) :=
  [("http", 80), ("https", 443), ("ws", 80), ("wss", 443), ("ftp", 21)]

/-! ## Escapes -/

def hexByte (byte : UInt8) : String :=
  let digits := Nat.toDigits 16 byte.toNat
  String.ofList ((if digits.length < 2 then '0' :: digits else digits).map Char.toUpper)

/-- Writes a character as the bytes that it has. -/
def escapeChar (character : Char) : String :=
  (character.toString.toUTF8.toList.map fun byte => "%" ++ hexByte byte).foldl (· ++ ·) ""

/-- Escapes the characters that are not plain ones, and those of a list. -/
def escape (others : List Char) (characters : List Char) : String :=
  characters.foldl (fun written character =>
    let isPlain := ' ' < character && character ≤ '~' && !others.contains character
    if isPlain then written.push character else written ++ escapeChar character) ""

def escapePath : List Char → String := escape "\"#<>?`\x7b\x7d".toList

def escapeQuery : List Char → String := escape "\"#<>'".toList

def escapeFragment : List Char → String := escape "\"<>`".toList

/-! ## Parts -/

def isSlash (character : Char) : Bool := character == '/' || character == '\\'

def endsAuthority (character : Char) : Bool :=
  isSlash character || character == '?' || character == '#'

/-- The characters that a host may not have. -/
def isForbiddenInHost (character : Char) : Bool :=
  character ≤ ' ' || character == '\x7f' || "#%/:<>?@[\\]^`\x7c".toList.contains character

def host? (characters : List Char) : Option String :=
  if characters.isEmpty || characters.any isForbiddenInHost then none
  else some (asciiLower (String.ofList characters))

/-- Reads a port. The usual port of the scheme is left out. -/
def port? (scheme : String) (digits : List Char) : Option (Option Nat) :=
  if !digits.all Char.isDigit then none
  else if digits.isEmpty then some none
  else
    let port := digits.foldl (fun value digit => value * 10 + (digit.toNat - '0'.toNat)) 0
    if 65535 < port then none
    else some (if usualPorts.lookup scheme == some port then none else some port)

def isHere (segment : String) : Bool := [".", "%2e"].contains (asciiLower segment)

def isAbove (segment : String) : Bool :=
  ["..", ".%2e", "%2e.", "%2e%2e"].contains (asciiLower segment)

/-- The segments of a path, those that are passed over worked out. -/
def resolve (segments : List String) : List String :=
  let step (passed : List String) (segment : String) : List String :=
    if isAbove segment then passed.drop 1
    else if isHere segment then passed
    else segment :: passed
  let passed := (segments.foldl step []).reverse
  match segments.getLast? with
  | some last => if isHere last || isAbove last then passed ++ [""] else passed
  | none => passed

def splitSlashes : List Char → List (List Char)
  | [] => [[]]
  | character :: rest =>
      match splitSlashes rest with
      | [] => [[character]]
      | first :: others =>
          if isSlash character then [] :: first :: others else (character :: first) :: others

/-- The path that starts with a slash. -/
def readPath (characters : List Char) : String :=
  let segments := (splitSlashes (characters.dropWhile isSlash)).map escapePath
  let leading := (characters.takeWhile isSlash).drop 1 |>.map fun _ => ""
  "/" ++ "/".intercalate (resolve (leading ++ segments))

/-- Splits characters before the first that satisfies a test. -/
def cut (test : Char → Bool) (characters : List Char) : List Char × List Char :=
  (characters.takeWhile (!test ·), characters.dropWhile (!test ·))

/-- What follows the last of the signs that end a name of a user. -/
def withoutUser (authority : List Char) : List Char :=
  (authority.reverse.takeWhile (· != '@')).reverse

end Address

/-- Why a text is no address that can be asked. -/
inductive AddressError
  | malformed
  /-- The address names no host. -/
  | withoutHost (text : String)
  deriving DecidableEq, Repr

namespace Address

/-- Reads what follows the slashes behind the scheme. -/
def readAuthority (scheme : String) (characters : List Char) : Except AddressError Address :=
  let (authority, rest) := cut endsAuthority characters
  let (name, port) := cut (· == ':') (withoutUser authority)
  let (path, rest) := cut (fun character => character == '?' || character == '#') rest
  let (query, rest) := cut (· == '#') rest
  match host? name, port? scheme (port.drop 1) with
  | some host, some port =>
      let query := if query.isEmpty then none else some (escapeQuery (query.drop 1))
      let fragment := if rest.isEmpty then none else some (escapeFragment (rest.drop 1))
      .ok { scheme, host, port, path := readPath path, query, fragment }
  | _, _ => .error .malformed

/-- Reads an address. Blanks around it and line breaks in it do not matter. -/
def read (text : String) : Except AddressError Address :=
  let isOuter (character : Char) : Bool := character ≤ ' '
  let isInner (character : Char) : Bool :=
    character == '\t' || character == '\n' || character == '\r'
  let characters := (dropEndWhile isOuter (text.toList.dropWhile isOuter)).filter (!isInner ·)
  let (scheme, rest) := cut (· == ':') characters
  let isSchemeCharacter (character : Char) : Bool :=
    character.isAlphanum || character == '+' || character == '-' || character == '.'
  let isScheme := (scheme.head?.map Char.isAlpha).getD false && scheme.all isSchemeCharacter
  match rest with
  | [] => .error .malformed
  | _ :: rest =>
      let scheme := asciiLower (String.ofList scheme)
      if !isScheme then .error .malformed
      else if (usualPorts.lookup scheme).isSome then
        readAuthority scheme (rest.dropWhile isSlash)
      else .error (.withoutHost (scheme ++ ":" ++ escapeFragment rest))

end Address

end RepoSurvey.Web
