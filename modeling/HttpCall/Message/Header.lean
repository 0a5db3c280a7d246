import HttpCall.Text.Utf8
import HttpCall.Token

/-!
# Headers

Fields in the order in which they were added.  Names are compared without regard
to case and kept in lower case; values are bytes without control characters.
-/

namespace HttpCall

structure HeaderName where
  text : String
deriving DecidableEq, Repr

namespace HeaderName

def maxLength : Nat := 65535

/-- A name is a token of bounded length. -/
def parse? (s : String) : Option HeaderName :=
  if Token.isToken s.toList && s.length <= maxLength then
    some ⟨String.ofList (s.toList.map Char.toLower)⟩
  else none

def acceptEncoding : HeaderName := ⟨"accept-encoding"⟩
def authorization : HeaderName := ⟨"authorization"⟩
def contentLength : HeaderName := ⟨"content-length"⟩
def contentType : HeaderName := ⟨"content-type"⟩
def cookie : HeaderName := ⟨"cookie"⟩
def location : HeaderName := ⟨"location"⟩
def proxyAuthorization : HeaderName := ⟨"proxy-authorization"⟩
def setCookie : HeaderName := ⟨"set-cookie"⟩
def userAgent : HeaderName := ⟨"user-agent"⟩

end HeaderName

structure HeaderValue where
  bytes : List UInt8
deriving DecidableEq, Repr

namespace HeaderValue

def isAllowed (b : UInt8) : Bool := b == 9 || (32 <= b && b != 127)

def ofBytes? (bytes : List UInt8) : Option HeaderValue :=
  if bytes.all isAllowed then some ⟨bytes⟩ else none

def parse? (s : String) : Option HeaderValue := ofBytes? (Text.Utf8.encode s.toList)

def isPlain (b : UInt8) : Bool := b == 9 || (32 <= b && b < 127)

def text? (v : HeaderValue) : Option String :=
  if v.bytes.all isPlain then some (String.ofList (v.bytes.map fun b => Char.ofNat b.toNat))
  else none

def ofPlain (s : String) : HeaderValue := ⟨Text.Utf8.encode s.toList⟩

end HeaderValue

structure Headers where
  fields : List (HeaderName × HeaderValue)
deriving DecidableEq, Repr

namespace Headers

def empty : Headers := ⟨[]⟩

def values (h : Headers) (name : HeaderName) : List HeaderValue :=
  (h.fields.filter fun f => f.1 = name).map Prod.snd

def append (h : Headers) (name : HeaderName) (value : HeaderValue) : Headers :=
  ⟨h.fields ++ [(name, value)]⟩

def erase (h : Headers) (name : HeaderName) : Headers :=
  ⟨h.fields.filter fun f => f.1 ≠ name⟩

def insert (h : Headers) (name : HeaderName) (value : HeaderValue) : Headers :=
  (h.erase name).append name value

/-- The first value of a name, if it is plain ASCII. -/
def text? (h : Headers) (name : HeaderName) : Option String :=
  (h.values name).head?.bind HeaderValue.text?

def lookup? (h : Headers) (name : String) : Option String :=
  (HeaderName.parse? name).bind h.text?

/-- The fields with the names in order and the values of a name in theirs. -/
def sorted (h : Headers) : List (HeaderName × HeaderValue) :=
  h.fields.mergeSort fun a b => decide (a.1.text <= b.1.text)

@[simp] theorem values_append_self (h : Headers) (name : HeaderName) (value : HeaderValue) :
    (h.append name value).values name = h.values name ++ [value] := by
  simp [values, append]

theorem values_append_of_ne (h : Headers) {name other : HeaderName} (value : HeaderValue)
    (hne : other ≠ name) : (h.append name value).values other = h.values other := by
  simp [values, append, hne.symm]

@[simp] theorem values_erase_self (h : Headers) (name : HeaderName) :
    (h.erase name).values name = [] := by
  simp only [values, erase, List.filter_filter, List.map_eq_nil_iff, List.filter_eq_nil_iff]
  intro f _
  simp

theorem values_erase_of_ne (h : Headers) {name other : HeaderName} (hne : other ≠ name) :
    (h.erase name).values other = h.values other := by
  simp only [values, erase, List.filter_filter]
  congr 1
  apply List.filter_congr
  intro f _
  by_cases hf : f.1 = other <;> simp [hf, hne]

@[simp] theorem values_insert_self (h : Headers) (name : HeaderName) (value : HeaderValue) :
    (h.insert name value).values name = [value] := by
  simp [insert]

theorem values_insert_of_ne (h : Headers) {name other : HeaderName} (value : HeaderValue)
    (hne : other ≠ name) : (h.insert name value).values other = h.values other := by
  rw [insert, values_append_of_ne _ _ hne, values_erase_of_ne _ hne]

end Headers
end HttpCall
