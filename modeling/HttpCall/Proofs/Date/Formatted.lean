import HttpCall.HttpDate
import HttpCall.Proofs.Date.Days
import HttpCall.Proofs.Text.Decimal
import HttpCall.Proofs.Text.Separation

/-!
# Dates in their fixed form

A moment is written in the fixed form, as `Sun, 06 Nov 1994 08:49:37 GMT`.  Every moment up
to the end of the year 9999 is read back from that text.
-/

namespace HttpCall
namespace HttpDate

def ofSeconds (n : Nat) : HttpDate where
  year := Calendar.yearAt (n / 86400)
  month := Calendar.monthAt (n / 86400)
  day := Calendar.dayOfMonthAt (n / 86400)
  hour := n % 86400 / 3600
  minute := n % 3600 / 60
  second := n % 60
  weekday := Calendar.weekdayOf (n / 86400)

def nameOf (names : List String) (number : Nat) : String := names.getD (number - 1) ""

def clockText (d : HttpDate) : List Char :=
  Text.fixedDigits 2 d.hour ++ ":".toList ++ Text.fixedDigits 2 d.minute ++
    ":".toList ++ Text.fixedDigits 2 d.second

def text (d : HttpDate) : List Char :=
  (nameOf weekdayNames d.weekday ++ ", ").toList ++ Text.fixedDigits 2 d.day ++
    " ".toList ++ (nameOf monthNames d.month ++ " ").toList ++ Text.fixedDigits 4 d.year ++
    " ".toList ++ d.clockText ++ " GMT".toList

def ReadsBack (n : Nat) : Prop := (parse? (ofSeconds n).text).map toSeconds = some n

/-! ## Reading from the front of a text -/

namespace Scan

/-- The reader takes this text off the front of any other, with this result. -/
def Reads {α : Type} (p : Scan α) (s : List Char) (a : α) : Prop :=
  forall rest, p.run (s ++ rest) = some (a, rest)

variable {α β : Type} {p : Scan α} {s : List Char} {a : α}

theorem Reads.run_bind (h : Reads p s a) (f : α -> Scan β) (rest : List Char) :
    (p >>= f).run (s ++ rest) = (f a).run rest := by
  rw [StateT.run_bind, h rest]
  rfl

theorem reads_text (t : String) : Reads (text t) t.toList () := by
  intro rest
  change text t (t.toList ++ rest) = _
  unfold text
  rw [if_pos (by simp), ← String.length_toList, List.drop_left]

theorem reads_digits {count n : Nat} (hn : n < 10 ^ (count + 1)) :
    Reads (digits (count + 1)) (Text.fixedDigits (count + 1) n) n := by
  intro rest
  have hlength := Text.length_fixedDigits (count + 1) n
  change digits (count + 1) (Text.fixedDigits (count + 1) n ++ rest) = _
  unfold digits
  rw [List.take_left' hlength, if_pos hlength, List.drop_left' hlength,
    Text.readNat_fixedDigits hn]
  rfl

theorem eq_of_isPrefixOf {m n after : String} {rest : List Char} (hlength : m.length = n.length)
    (h : (m ++ after).toList.isPrefixOf ((n ++ after).toList ++ rest) = true) : m = n := by
  rw [List.isPrefixOf_iff_prefix, String.toList_append, String.toList_append,
    List.append_assoc] at h
  rcases h with ⟨t, ht⟩
  rw [List.append_assoc] at ht
  have hfront := (List.append_inj ht (by rwa [String.length_toList, String.length_toList])).1
  exact String.toList_inj.mp hfront

theorem reads_name {names : List String} {i : Nat} {n : String} (after : String)
    (hlength : forall m, m ∈ names -> m.length = n.length) (hnodup : names.Nodup)
    (hi : names[i]? = some n) : Reads (name names after) (n ++ after).toList (i + 1) := by
  intro rest
  change (names.zipIdx 0).findSome? _ = _
  rw [show i + 1 = 0 + i + 1 by omega]
  generalize 0 = start
  induction names generalizing i start with
  | nil =>
      simp at hi
  | cons m others ih =>
      rw [List.zipIdx_cons, List.findSome?_cons]
      rw [List.nodup_cons] at hnodup
      cases i with
      | zero =>
          have hm : m = n := by simpa using hi
          subst hm
          simp [← String.length_toList]
      | succ i =>
          have hi' : others[i]? = some n := by simpa using hi
          have hne : m ≠ n := fun heq => hnodup.1 (heq ▸ List.mem_of_getElem? hi')
          have hnot : ¬ (m ++ after).toList.isPrefixOf ((n ++ after).toList ++ rest) = true :=
            fun h => hne (eq_of_isPrefixOf (hlength m List.mem_cons_self) h)
          simp only [hnot]
          have hrest := ih (fun m' hm' => hlength m' (List.mem_cons_of_mem _ hm')) hnodup.2
            hi' (start + 1)
          rw [show start + (i + 1) + 1 = start + 1 + i + 1 by omega]
          exact hrest

theorem reads_nameOf {names : List String} {length number : Nat} (after : String)
    (hlength : forall m, m ∈ names -> m.length = length) (hnodup : names.Nodup)
    (hpos : 1 <= number) (hle : number <= names.length) :
    Reads (name names after) (nameOf names number ++ after).toList number := by
  have hnumber : number - 1 < names.length := by omega
  have hget : names[number - 1]? = some (nameOf names number) := by
    rw [nameOf, List.getD_eq_getElem?_getD, List.getElem?_eq_getElem hnumber]
    rfl
  have hreads := reads_name after
    (fun m hm => (hlength m hm).trans (hlength _ (List.mem_of_getElem? hget)).symm) hnodup hget
  rwa [Nat.sub_add_cancel hpos] at hreads

theorem reads_clock {d : HttpDate} (hhour : d.hour < 100) (hminute : d.minute < 100)
    (hsecond : d.second < 100) :
    Reads clock d.clockText (d.hour, d.minute, d.second) := by
  intro rest
  unfold clock clockText
  simp only [List.append_assoc]
  rw [(reads_digits hhour).run_bind, (reads_text ":").run_bind, (reads_digits hminute).run_bind,
    (reads_text ":").run_bind, (reads_digits hsecond).run_bind]
  rfl

end Scan

/-! ## Reading the fixed form -/

section

open Scan

variable {d : HttpDate}

structure HasFixedForm (d : HttpDate) : Prop where
  weekday : 1 <= d.weekday ∧ d.weekday <= weekdayNames.length
  month : 1 <= d.month ∧ d.month <= monthNames.length
  day : d.day < 100
  year : d.year < 10000
  hour : d.hour < 100
  minute : d.minute < 100
  second : d.second < 100

theorem hasFixedForm_of_isReal (hd : d.isReal = true) : HasFixedForm d := by
  simp only [isReal, Bool.and_eq_true, decide_eq_true_eq, beq_iff_eq] at hd
  have hlength := Calendar.monthLength_le d.year d.month
  have hweekdays : weekdayNames.length = 7 := rfl
  have hmonths : monthNames.length = 12 := rfl
  have hweekday : d.weekday =
      (Calendar.dayNumber d.year d.month d.day + 3) % 7 + 1 := hd.2
  constructor <;> omega

theorem run_fixedForm_text (hd : HasFixedForm d) : fixedForm.run d.text = some (d, []) := by
  have hweekdays : forall m, m ∈ weekdayNames -> m.length = 3 := by decide
  have hmonths : forall m, m ∈ monthNames -> m.length = 3 := by decide
  have hweekday : Reads (name weekdayNames ", ") _ d.weekday :=
    reads_nameOf ", " hweekdays (by decide) hd.weekday.1 hd.weekday.2
  have hmonth : Reads (name monthNames " ") _ d.month :=
    reads_nameOf " " hmonths (by decide) hd.month.1 hd.month.2
  have hclock := reads_clock hd.hour hd.minute hd.second
  unfold text fixedForm
  simp only [List.append_assoc]
  rw [hweekday.run_bind, (reads_digits hd.day).run_bind, (reads_text " ").run_bind,
    hmonth.run_bind, (reads_digits hd.year).run_bind, (reads_text " ").run_bind,
    hclock.run_bind, ← List.append_nil " GMT".toList, (reads_text " GMT").run_bind]
  rfl

theorem nameOf_mem (names : List String) (number : Nat) :
    nameOf names number ∈ "" :: names := by
  unfold nameOf
  rw [List.getD_eq_getElem?_getD]
  cases hget : names[number - 1]? with
  | none =>
      exact List.mem_cons_self
  | some n =>
      exact List.mem_cons_of_mem _ (List.mem_of_getElem? hget)

theorem isTrimmed_text (d : HttpDate) : Text.IsTrimmed d.text where
  front := by
    have hnames : forall n, n ∈ "" :: weekdayNames ->
        (n ++ ", ").toList.head?.any (fun c => !Text.isBlank c) = true := by
      decide
    obtain ⟨first, hfirst, hblank⟩ :=
      (Option.any_eq_true _ _).mp (hnames _ (nameOf_mem weekdayNames d.weekday))
    simp only [text, List.append_assoc, List.head?_append, hfirst, Option.some_or,
      Option.any_some]
    simpa using hblank
  back := by
    rw [text, List.getLast?_append]
    rfl

theorem semicolon_notMem_text (d : HttpDate) : ';' ∉ d.text := by
  have hweekdays : forall n, n ∈ "" :: weekdayNames -> ';' ∉ (n ++ ", ").toList := by decide
  have hmonths : forall n, n ∈ "" :: monthNames -> ';' ∉ (n ++ " ").toList := by decide
  have hdigits : forall width n, ';' ∉ Text.fixedDigits width n := fun width n h => by
    have hdigit := Text.isDigit_of_mem_fixedDigits h
    cases hdigit
  simp only [text, clockText, List.mem_append, hdigits, hweekdays _ (nameOf_mem _ d.weekday),
    hmonths _ (nameOf_mem _ d.month)]
  decide

theorem parse?_text (hd : d.isReal = true) : parse? d.text = some d := by
  have htrim := (Text.IsPadded.refl d.text).trim_eq d.isTrimmed_text
  unfold parse?
  rw [htrim, run_fixedForm_text (hasFixedForm_of_isReal hd)]
  simp [hd]

end

/-! ## Moments -/

/-- The end of the year 9999, in seconds since the beginning of 1970. -/
def limit : Nat := 253402300800

section

variable (n : Nat)

@[simp] theorem year_ofSeconds : (ofSeconds n).year = Calendar.yearAt (n / 86400) := rfl

@[simp] theorem month_ofSeconds : (ofSeconds n).month = Calendar.monthAt (n / 86400) := rfl

@[simp] theorem day_ofSeconds : (ofSeconds n).day = Calendar.dayOfMonthAt (n / 86400) := rfl

@[simp] theorem hour_ofSeconds : (ofSeconds n).hour = n % 86400 / 3600 := rfl

@[simp] theorem minute_ofSeconds : (ofSeconds n).minute = n % 3600 / 60 := rfl

@[simp] theorem second_ofSeconds : (ofSeconds n).second = n % 60 := rfl

@[simp] theorem weekday_ofSeconds :
    (ofSeconds n).weekday = Calendar.weekdayOf (n / 86400) := rfl

end

theorem toSeconds_ofSeconds (n : Nat) : (ofSeconds n).toSeconds = n := by
  unfold toSeconds
  rw [year_ofSeconds, month_ofSeconds, day_ofSeconds, Calendar.dayNumber_at,
    hour_ofSeconds, minute_ofSeconds, second_ofSeconds]
  omega

theorem isReal_ofSeconds {n : Nat} (hn : n < limit) : (ofSeconds n).isReal = true := by
  have hdays : n / 86400 + Calendar.epoch < Calendar.daysBeforeYear 10000 := by
    have hepoch : Calendar.epoch = 719162 := by decide
    have hend : Calendar.daysBeforeYear 10000 = 3652059 := by decide
    rw [hepoch, hend]
    unfold limit at hn
    omega
  have hpos : 1 <= Calendar.dayOfMonthAt (n / 86400) := Nat.succ_pos _
  have hlast := Nat.le_of_lt_succ (Calendar.yearAt_lt hdays)
  have hminute : n % 3600 / 60 < 60 := by omega
  have hhour : n % 86400 / 3600 < 24 := by omega
  have hsecond : n % 60 < 60 := Nat.mod_lt n (by decide)
  unfold isReal
  rw [year_ofSeconds, month_ofSeconds, day_ofSeconds, hour_ofSeconds, minute_ofSeconds,
    second_ofSeconds, weekday_ofSeconds, Calendar.dayNumber_at]
  simp only [Calendar.le_yearAt, hlast, hpos, Calendar.monthAt_bounds,
    Calendar.dayOfMonthAt_le, hsecond, hminute, hhour, decide_true, beq_self_eq_true,
    Bool.and_self]

/-- Every moment up to the end of the year 9999 is read back from its fixed form. -/
theorem readsBack_of_lt {n : Nat} (hn : n < limit) : ReadsBack n := by
  unfold ReadsBack
  rw [parse?_text (isReal_ofSeconds hn), Option.map_some, toSeconds_ofSeconds]

end HttpDate
end HttpCall
