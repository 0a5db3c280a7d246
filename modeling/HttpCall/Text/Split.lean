/-!
# Splitting a text at a separator

`splitOn` cuts at every separator and always yields at least one part;
`splitOnce` cuts at the first one only; `words` cuts at spaces and line ends and
keeps what lies between them.
-/

namespace HttpCall
namespace Text

def splitOn (sep : Char) : List Char -> List (List Char)
  | [] => [[]]
  | c :: rest =>
      if c = sep then [] :: splitOn sep rest
      else
        match splitOn sep rest with
        | [] => [[c]]
        | part :: parts => (c :: part) :: parts

def splitOnce (sep : Char) : List Char -> Option (List Char × List Char)
  | [] => none
  | c :: rest =>
      if c = sep then some ([], rest)
      else (splitOnce sep rest).map fun cut => (c :: cut.1, cut.2)

def words (s : List Char) : List (List Char) :=
  ((splitOn '\n' s).flatMap (splitOn ' ')).filter fun word => !word.isEmpty

theorem splitOn_ne_nil (sep : Char) (s : List Char) : splitOn sep s ≠ [] := by
  cases s with
  | nil => simp [splitOn]
  | cons c rest =>
      unfold splitOn
      split
      · simp
      · split <;> simp

theorem eq_append_of_splitOnce {sep : Char} {s before after : List Char}
    (h : splitOnce sep s = some (before, after)) :
    s = before ++ sep :: after := by
  induction s generalizing before with
  | nil => simp [splitOnce] at h
  | cons c rest ih =>
      unfold splitOnce at h
      split at h
      · rename_i hc
        cases h
        simp [hc]
      · cases hrest : splitOnce sep rest with
        | none => simp [hrest] at h
        | some cut =>
            simp only [hrest, Option.map_some, Option.some.injEq, Prod.mk.injEq] at h
            rcases h with ⟨rfl, rfl⟩
            simp [← ih hrest]

end Text
end HttpCall
