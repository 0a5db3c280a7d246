import HttpCall.Text.Blank
import HttpCall.Url.Printer

/-!
# Reading URLs

`parse` reads an absolute URL and `join` a reference relative to another URL.
Both follow the steps of a browser: blanks and control characters at the ends
and line ends anywhere are dropped, special schemes read a backslash as a slash,
and dot segments are resolved.
-/

namespace HttpCall
namespace Url

/-! ## The text as a whole -/

/-- Drop control characters and spaces at the ends, and tabs and line ends
everywhere. -/
def clean (s : List Char) : List Char :=
  (Text.dropEndWhile (fun c => c.toNat <= 32) (s.dropWhile fun c => c.toNat <= 32)).filter
    fun c => c != '\t' && c != '\n' && c != '\r'

def isSchemeChar (c : Char) : Bool := c.isAlphanum || c == '+' || c == '-' || c == '.'

def splitScheme : List Char -> Option (String × List Char)
  | [] => none
  | c :: rest =>
      if c.isAlpha then
        match (c :: rest).dropWhile isSchemeChar with
        | ':' :: after =>
            some (String.ofList (((c :: rest).takeWhile isSchemeChar).map Char.toLower), after)
        | _ => none
      else none

def isSlash (c : Char) : Bool := c == '/' || c == '\\'

def endsAuthority (special : Bool) (c : Char) : Bool :=
  c == '/' || c == '?' || c == '#' || (special && c == '\\')

def endsPath (c : Char) : Bool := c == '?' || c == '#'

/-! ## Query and fragment -/

def readFragment (s : List Char) : Option String :=
  match s with
  | '#' :: rest => some (String.ofList (Percent.encode Percent.escapedInFragment rest))
  | _ => none

def readTail (special : Bool) : List Char -> Option String × Option String
  | '?' :: rest =>
      let escaped := if special then Percent.escapedInSpecialQuery else Percent.escapedInQuery
      (some (String.ofList (Percent.encode escaped (rest.takeWhile (· != '#')))),
        readFragment (rest.dropWhile (· != '#')))
  | s => (none, readFragment s)

/-! ## Path segments -/

def isSingleDot (segment : String) : Bool :=
  [".", "%2e", "%2E"].contains segment

def isDoubleDot (segment : String) : Bool :=
  ["..", "%2e%2e", "%2e%2E", "%2E%2e", "%2E%2E", "%2e.", "%2E.", ".%2e", ".%2E"].contains
    segment

def isDriveLetter (segment : String) : Bool :=
  match segment.toList with
  | [c, mark] => c.isAlpha && (mark == ':' || mark == '|')
  | _ => false

def isNormalDriveLetter (segment : String) : Bool :=
  match segment.toList with
  | [c, mark] => c.isAlpha && mark == ':'
  | _ => false

def cutSegments (special : Bool) : List Char -> List (List Char)
  | [] => [[]]
  | c :: rest =>
      if c == '/' || (special && c == '\\') then [] :: cutSegments special rest
      else
        match cutSegments special rest with
        | part :: parts => (c :: part) :: parts
        | [] => [[c]]

/-- Go up by one segment.  A file URL keeps a lone drive letter. -/
def shorten (file : Bool) (above : List String) : List String :=
  match above with
  | [drive] => if file && isNormalDriveLetter drive then [drive] else []
  | _ :: rest => rest
  | [] => []

def extend (file : Bool) (above : List String) (segment : String) : List String :=
  if file && above.isEmpty && isDriveLetter segment then
    String.ofList (segment.toList.take 1 ++ [':']) :: above
  else segment :: above

/-- Resolve dot segments; the segments above come nearest first. -/
def resolve (file : Bool) : List String -> List String -> List String
  | above, [] => above
  | above, [last] =>
      if isDoubleDot last then "" :: shorten file above
      else if isSingleDot last then "" :: above
      else extend file above last
  | above, segment :: rest =>
      if isDoubleDot segment then resolve file (shorten file above) rest
      else if isSingleDot segment then resolve file above rest
      else resolve file (extend file above segment) rest

def dropLeadingEmpty : List String -> List String
  | "" :: part :: rest => dropLeadingEmpty (part :: rest)
  | parts => parts

def readSegments (scheme : String) (above : List String) (s : List Char) : List String :=
  let file := scheme == "file"
  let raw := (cutSegments (isSpecialScheme scheme) s).map fun part =>
    String.ofList (Percent.encode Percent.escapedInPath part)
  let parts := (resolve file above.reverse raw).reverse
  if file then dropLeadingEmpty parts else parts

def withSegments (url : Url) (above : List String) (s : List Char) : Url :=
  let tail := readTail (isSpecialScheme url.scheme) (s.dropWhile fun c => !endsPath c)
  { url with
    path := .segments (readSegments url.scheme above (s.takeWhile fun c => !endsPath c))
    query := tail.1
    fragment := tail.2 }

def ofScheme (scheme : String) : Url where
  scheme := scheme
  username := ""
  password := ""
  host := none
  port := none
  path := .segments []
  query := none
  fragment := none

/-! ## Authority -/

/-- A user name and password, and the text after the last at sign before the
end of the authority. -/
def readUserinfo (special : Bool) (s : List Char) :
    Except ParseError ((String × String) × Bool × List Char) :=
  let authority := s.takeWhile fun c => !endsAuthority special c
  let rest := s.drop authority.length
  let after := (authority.reverse.takeWhile (· != '@')).reverse
  if authority.contains '@' then
    let info := authority.take (authority.length - after.length - 1)
    if info.isEmpty then
      if after.isEmpty && !rest.isEmpty then .error .emptyHost
      else .ok (("", ""), false, after ++ rest)
    else
      let encoded (part : List Char) :=
        String.ofList (Percent.encode Percent.escapedInUserinfo part)
      let name := encoded (info.takeWhile (· != ':'))
      let password := encoded ((info.dropWhile (· != ':')).drop 1)
      .ok ((name, password), name != "" || password != "", after ++ rest)
  else .ok (("", ""), false, s)

/-- The text up to a colon outside square brackets or the end of the authority,
and the text after it. -/
def spanHost (special : Bool) : Bool -> List Char -> List Char × List Char
  | _, [] => ([], [])
  | inside, c :: rest =>
      if (c == ':' && !inside) || endsAuthority special c then ([], c :: rest)
      else
        let cut := spanHost special (if c == '[' then true else if c == ']' then false else inside)
          rest
        (c :: cut.1, cut.2)

/-- Read a port after its colon; the implied one is left out. -/
def readPort (scheme : String) (s : List Char) : Except ParseError (Option Nat × List Char) :=
  let digits := s.takeWhile Char.isDigit
  let rest := s.drop digits.length
  let port := (Text.readNat digits).getD 0
  if 65535 < port then .error .invalidPort
  else
    match rest with
    | c :: _ =>
        if isSlash c || endsPath c then .ok (kept digits port, rest) else .error .invalidPort
    | [] => .ok (kept digits port, [])
where
  kept (digits : List Char) (port : Nat) : Option Nat :=
    if digits.isEmpty || defaultPort? scheme == some port then none else some port

def withPath (url : Url) (s : List Char) : Url :=
  match s with
  | c :: rest =>
      if c == '/' || (isSpecialScheme url.scheme && c == '\\') then url.withSegments [] rest
      else if isSpecialScheme url.scheme || !endsPath c then url.withSegments [] (c :: rest)
      else
        let tail := readTail false (c :: rest)
        { url with query := tail.1, fragment := tail.2 }
  | [] => if isSpecialScheme url.scheme then url.withSegments [] [] else url

def readAuthority (scheme : String) (s : List Char) : Except ParseError Url := do
  let special := isSpecialScheme scheme
  let ((username, password), credentials, s) <- readUserinfo special s
  let (hostText, s) := spanHost special false s
  let host <-
    if special then
      if hostText.isEmpty then .error .emptyHost else Host.parseDomain hostText
    else Host.parseOpaque hostText
  if host = .empty ∧ s.head? = some ':' then .error .emptyHost
  let (port, s) <-
    match s with
    | ':' :: rest => readPort scheme rest
    | s => .ok (none, s)
  if host = .empty ∧ credentials then .error .emptyHost
  return { ofScheme scheme with username, password, host := some host, port }.withPath s

/-! ## Files -/

def readFileHost (s : List Char) : Except ParseError Url :=
  let name := s.takeWhile fun c => !(isSlash c || endsPath c)
  let rest := s.drop name.length
  let here := { ofScheme "file" with host := some Host.empty }
  if isDriveLetter (String.ofList name) then .ok (here.withPath s)
  else if name.isEmpty then .ok (here.withPath rest)
  else
    match Host.parseDomain name with
    | .error e => .error e
    | .ok (.named "localhost") => .ok (here.withPath rest)
    | .ok host =>
        let url := { here with host := some host }.withPath rest
        match url.path with
        | .segments (first :: _) =>
            if isNormalDriveLetter first then .ok { url with host := some Host.empty }
            else .ok url
        | _ => .ok url

def readFile (s : List Char) : Except ParseError Url :=
  match s with
  | a :: b :: rest =>
      if isSlash a && isSlash b then readFileHost rest
      else .ok ({ ofScheme "file" with host := some Host.empty }.withPath s)
  | _ => .ok ({ ofScheme "file" with host := some Host.empty }.withPath s)

/-! ## References -/

def withFragment (base : Url) (s : List Char) : Url :=
  { base with fragment := readFragment s }

def folder (url : Url) : List String :=
  match url.path with
  | .segments parts => parts.dropLast
  | .whole _ => []

def readRelative (base : Url) (s : List Char) : Except ParseError Url :=
  match s with
  | [] => .ok { base with fragment := none }
  | '#' :: _ => .ok (base.withFragment s)
  | '?' :: _ =>
      let tail := readTail (isSpecialScheme base.scheme) s
      .ok { base with query := tail.1, fragment := tail.2 }
  | c :: rest =>
      if isSlash c then
        match rest with
        | d :: more =>
            if isSlash d then
              if c == '/' && d == '/' then readAuthority base.scheme more
              else readAuthority base.scheme (more.dropWhile isSlash)
            else .ok (base.withSegments [] rest)
        | [] => .ok (base.withSegments [] [])
      else .ok (base.withSegments base.folder (c :: rest))

def readAbsolute (base : Option Url) (scheme : String) (s : List Char) :
    Except ParseError Url :=
  if scheme = "file" then readFile s
  else if isSpecialScheme scheme then
    match base with
    | some b =>
        if b.scheme = scheme ∧ (s.takeWhile isSlash).length < 2 then readRelative b s
        else readAuthority scheme (s.dropWhile isSlash)
    | none => readAuthority scheme (s.dropWhile isSlash)
  else
    match s with
    | '/' :: '/' :: rest => readAuthority scheme rest
    | '/' :: rest => .ok ((ofScheme scheme).withSegments [] rest)
    | s =>
        let tail := readTail false (s.dropWhile fun c => !endsPath c)
        .ok { ofScheme scheme with
          path := .whole (String.ofList
            (Percent.encode Percent.isControl (s.takeWhile fun c => !endsPath c)))
          query := tail.1
          fragment := tail.2 }

def parse (s : String) : Except ParseError Url :=
  match splitScheme (clean s.toList) with
  | some (scheme, rest) => readAbsolute none scheme rest
  | none => .error .relativeWithoutBase

def join (base : Url) (s : String) : Except ParseError Url :=
  match splitScheme (clean s.toList) with
  | some (scheme, rest) => readAbsolute (some base) scheme rest
  | none =>
      match base.path, clean s.toList with
      | _, '#' :: rest => .ok (base.withFragment ('#' :: rest))
      | .whole _, _ => .error .relativeToWholePath
      | .segments _, t => readRelative base t

end Url
end HttpCall
