import HttpCall.Proofs.Cookies.Segment

/-!
# The grammar of a cookie text

A text is read as a cookie if what stands before its first semicolon follows a small
grammar, and is refused otherwise; the attributes have no part in it.  The name and the
value of the cookie are those of the grammar, and written without attributes they are read
again.
-/

namespace HttpCall
namespace Cookie

def front (header : String) : List Char := header.toList.takeWhile (· != ';')

/-- What a name and a value are written as: a token and octets, the octets in double quotes
or without, and between them an `=`, the first of the segment.  Blanks may stand around the
token, and around the octets and their quotes. -/
inductive IsPair (name value : List Char) : List Char -> Prop
  | mk {left right quoted : List Char} (hmark : '=' ∉ left)
      (hleft : Text.IsPadded name left) (hname : Token.isToken name = true)
      (hright : Text.IsPadded quoted right) (hquoted : Quotes value quoted)
      (hvalue : value.all isOctet = true) : IsPair name value (left ++ '=' :: right)

section

variable {name value segment s octets : List Char}

theorem quotes_of_unquote? (h : unquote? s = some octets) : Quotes octets s := by
  unfold unquote? at h
  split at h
  · rename_i rest
    split at h
    · rename_i hlast
      cases h
      obtain ⟨inside, rfl⟩ := List.getLast?_eq_some_iff.mp hlast
      rw [List.dropLast_concat]
      exact .inr rfl
    · cases h
  · cases h
    exact .inl rfl

/-- A segment is read as a name and a value exactly if it is one of their written forms. -/
theorem pair?_eq_some_iff : pair? segment = some (name, value) <-> IsPair name value segment := by
  constructor
  · intro h
    unfold pair? at h
    split at h
    · cases h
    · rename_i left right hsplit
      split at h
      · rename_i hname
        split at h
        · cases h
        · rename_i octets hunquote
          split at h
          · rename_i hvalue
            cases h
            rw [Text.eq_append_of_splitOnce hsplit]
            exact .mk (Text.notMem_of_splitOnce hsplit) (Text.isPadded_trim left) hname
              (Text.isPadded_trim right) (quotes_of_unquote? hunquote) hvalue
          · cases h
      · cases h
  · rintro ⟨_, hleft, hname, hright, hquoted, hvalue⟩
    exact pair?_of_assigns hname hvalue hquoted ⟨_, _, hleft, hright, rfl⟩

theorem IsPair.isToken (h : IsPair name value segment) : Token.isToken name = true := by
  cases h
  assumption

theorem IsPair.all_isOctet (h : IsPair name value segment) : value.all isOctet = true := by
  cases h
  assumption

theorem isPair_pair (hname : Token.isToken name = true) (hvalue : value.all isOctet = true) :
    IsPair name value (name ++ '=' :: value) :=
  .mk (fun hmark => by cases isTokenChar_of_mem hname hmark) (.refl name) hname (.refl value)
    (.inl rfl) hvalue

end

/-! ## Attributes do not matter -/

theorem pair_applySegment (c : Cookie) (segment : List Char) :
    (c.applySegment segment).name = c.name ∧ (c.applySegment segment).value = c.value := by
  unfold applySegment
  split
  · rename_i a _
    cases a <;> exact ⟨rfl, rfl⟩
  · exact ⟨rfl, rfl⟩

theorem pair_foldl_applySegment (segments : List (List Char)) (c : Cookie) :
    (segments.foldl applySegment c).name = c.name ∧
      (segments.foldl applySegment c).value = c.value := by
  induction segments generalizing c with
  | nil =>
      exact ⟨rfl, rfl⟩
  | cons segment rest ih =>
      rcases pair_applySegment c segment with ⟨hname, hvalue⟩
      rcases ih (c.applySegment segment) with ⟨hname', hvalue'⟩
      exact ⟨hname'.trans hname, hvalue'.trans hvalue⟩

theorem parse?_eq (header : String) :
    parse? header = (pair? (front header)).map fun nv =>
      (Text.splitOn ';' header.toList).tail.foldl applySegment
        (bare (String.ofList nv.1) (String.ofList nv.2)) := by
  unfold parse? front
  rw [Text.splitOn_eq_cons ';' header.toList]
  rfl

theorem pair?_front {header : String} {c : Cookie} (h : parse? header = some c) :
    pair? (front header) = some (c.name.toList, c.value.toList) := by
  rw [parse?_eq] at h
  obtain ⟨⟨name, value⟩, hpair, rfl⟩ := Option.map_eq_some_iff.mp h
  rcases pair_foldl_applySegment (Text.splitOn ';' header.toList).tail
    (bare (String.ofList name) (String.ofList value)) with ⟨hname, hvalue⟩
  rw [hpair, hname, hvalue]
  simp only [bare, String.toList_ofList]

theorem parse?_isSome_iff (header : String) :
    (parse? header).isSome = true <-> exists name value, IsPair name value (front header) := by
  rw [parse?_eq, Option.isSome_map]
  constructor
  · intro h
    obtain ⟨⟨name, value⟩, hpair⟩ := Option.isSome_iff_exists.mp h
    exact ⟨name, value, pair?_eq_some_iff.mp hpair⟩
  · rintro ⟨name, value, hpair⟩
    rw [pair?_eq_some_iff.mpr hpair]
    rfl

/-! ## Reading again what was read -/

theorem parse?_pair {name value : List Char} (hname : Token.isToken name = true)
    (hvalue : value.all isOctet = true) :
    parse? (bare (String.ofList name) (String.ofList value)).pair =
      some (bare (String.ofList name) (String.ofList value)) := by
  have htext : (bare (String.ofList name) (String.ofList value)).pair.toList =
      name ++ '=' :: value := by
    simp [pair, bare]
  have hsemicolon : ';' ∉ name ++ '=' :: value :=
    semicolon_notMem_of_pair hname hvalue (.inl rfl) ⟨name, value, .refl _, .refl _, rfl⟩
  unfold parse?
  rw [htext, Text.splitOn_of_notMem hsemicolon, ofSegments?,
    pair?_eq_some_iff.mpr (isPair_pair hname hvalue)]
  rfl

/-- A text is accepted exactly if its front is a name and a value by the grammar.  They are
the name and the value of the cookie, whatever follows; and written without attributes the
cookie is read as what it was, less its attributes, so that it is written the same again. -/
theorem accepted_by_grammar (header : String) :
    ((parse? header).isSome = true <->
        exists name value, IsPair name value (front header)) ∧
      forall c, parse? header = some c ->
        (forall name value, IsPair name value (front header) <->
          name = c.name.toList ∧ value = c.value.toList) ∧
        parse? c.pair = some (bare c.name c.value) ∧
        (parse? c.pair).map pair = some c.pair := by
  refine ⟨parse?_isSome_iff header, ?_⟩
  intro c hc
  have hpair := pair?_front hc
  have hread : parse? c.pair = some (bare c.name c.value) := by
    have hfront := pair?_eq_some_iff.mp hpair
    have hback := parse?_pair hfront.isToken hfront.all_isOctet
    rwa [String.ofList_toList, String.ofList_toList] at hback
  refine ⟨fun name value => ?_, hread, ?_⟩
  · rw [← pair?_eq_some_iff, hpair]
    simp [eq_comm]
  · rw [hread]
    rfl

theorem accepted_by_grammar_quoted :
    parse? "\u00a0sid\t=\u3000\"a=b\" ; Path=x;=" = some (bare "sid" "a=b") ∧
      (forall name value, IsPair name value (front "\u00a0sid\t=\u3000\"a=b\" ; Path=x;=") <->
        name = "sid".toList ∧ value = "a=b".toList) ∧
      parse? "sid=a=b" = some (bare "sid" "a=b") := by
  have hread : parse? "\u00a0sid\t=\u3000\"a=b\" ; Path=x;=" = some (bare "sid" "a=b") := by
    decide +kernel
  rcases (accepted_by_grammar _).right _ hread with ⟨hpair, hagain, _⟩
  exact ⟨hread, hpair, hagain⟩

/-- A quote alone is no value, and quotes do not stand within quotes. -/
example : parse? "sid=\"" = none ∧ parse? "sid=\"\"a\"\"" = none := by decide +kernel

end Cookie
end HttpCall
