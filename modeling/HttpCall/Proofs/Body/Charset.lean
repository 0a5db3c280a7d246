import HttpCall.Proofs.Text.Unicode
import HttpCall.Request.Draft

/-!
# The character sets of text bodies

A text is encoded by a label if the label names a character set that has every character of
the text, and otherwise refused: with the first character that the set does not have, or
because no set has the label.  Decoding the bytes gives the text again.
-/

namespace HttpCall
namespace Charset

def labels : Charset -> List String
  | utf8 => ["utf-8", "utf8"]
  | ascii => ["us-ascii", "ascii"]
  | latin1 => ["iso-8859-1", "latin1", "latin-1"]
  | utf16be => ["utf-16be"]
  | utf16le => ["utf-16le"]

/-- The label is one of the set, in letters of either case. -/
def IsNamed (charset : Charset) (label : String) : Prop :=
  String.ofList (label.toList.map Char.toLower) ∈ charset.labels

instance (charset : Charset) (label : String) : Decidable (charset.IsNamed label) :=
  inferInstanceAs (Decidable (_ ∈ _))

/-- The set has the character: all but two sets have all of them. -/
def has (charset : Charset) (c : Char) : Bool :=
  match charset with
  | ascii => c.toNat < 128
  | latin1 => c.toNat < 256
  | _ => true

/-- Decode the bytes of a text, in which no mark for the order of bytes is expected. -/
def decode? : Charset -> List UInt8 -> Option (List Char)
  | utf8, bytes => Text.Utf8.decode? bytes
  | ascii, bytes =>
      if bytes.all (· < 128) then some (bytes.map fun b => Char.ofNat b.toNat) else none
  | latin1, bytes => some (bytes.map fun b => Char.ofNat b.toNat)
  | utf16be, bytes =>
      (Text.Utf16.unitsOf? Text.Utf16.ofBigEndian bytes).bind Text.Utf16.decode?
  | utf16le, bytes =>
      (Text.Utf16.unitsOf? Text.Utf16.ofLittleEndian bytes).bind Text.Utf16.decode?

variable {charset : Charset} {label : String} {c : Char} {bytes : List UInt8}

theorem ofLabel?_eq_some_iff : ofLabel? label = some charset <-> charset.IsNamed label := by
  unfold ofLabel? IsNamed
  generalize String.ofList (label.toList.map Char.toLower) = spelled
  split <;> cases charset <;> simp_all [labels]

theorem ofLabel?_eq_none_iff :
    ofLabel? label = none <-> forall charset : Charset, ¬ charset.IsNamed label := by
  rw [Option.eq_none_iff_forall_ne_some]
  exact forall_congr' fun charset => not_congr ofLabel?_eq_some_iff

/-! ## Single characters -/

theorem encodeChar?_eq_none_iff : charset.encodeChar? c = none <-> charset.has c = false := by
  cases charset <;> simp [encodeChar?, has]

theorem ofNat_toNat_byte (h : c.toNat < 256) : Char.ofNat (UInt8.ofNat c.toNat).toNat = c := by
  rw [Text.Utf8.toNat_byte h, Char.ofNat_toNat]

theorem bind_decode?_unitsOf (c : Char) (units? : Option (List Nat)) :
    (units?.map (Text.Utf16.unitsOf c ++ ·)).bind Text.Utf16.decode? =
      (units?.bind Text.Utf16.decode?).map (c :: ·) := by
  cases units? with
  | none =>
      rfl
  | some units =>
      exact Text.Utf16.decode?_unitsOf_append c units

/-- Decoding takes the character off the front, whatever follows it. -/
theorem decode?_encodeChar_append (h : charset.encodeChar? c = some bytes)
    (rest : List UInt8) :
    charset.decode? (bytes ++ rest) = (charset.decode? rest).map (c :: ·) := by
  cases charset with
  | utf8 =>
      cases h
      exact Text.Utf8.decode?_encodeChar_append c rest
  | ascii =>
      rw [encodeChar?] at h
      split at h
      · rename_i hc
        cases h
        have hbyte : UInt8.ofNat c.toNat < 128 := by
          rw [UInt8.lt_iff_toNat_lt, Text.Utf8.toNat_byte (by omega)]
          exact hc
        rw [List.singleton_append, decode?, List.all_cons, List.map_cons,
          ofNat_toNat_byte (by omega), decide_eq_true hbyte, Bool.true_and, decode?]
        split <;> rfl
      · cases h
  | latin1 =>
      rw [encodeChar?] at h
      split at h
      · rename_i hc
        cases h
        rw [List.singleton_append, decode?, List.map_cons, ofNat_toNat_byte hc]
        rfl
      · cases h
  | utf16be =>
      cases h
      rw [decode?, Text.Utf16.unitsOf?_flatMap_append fun unit hunit =>
        Text.Utf16.exists_bigEndian_eq (Text.Utf16.lt_of_mem_unitsOf hunit)]
      exact bind_decode?_unitsOf c _
  | utf16le =>
      cases h
      rw [decode?, Text.Utf16.unitsOf?_flatMap_append fun unit hunit =>
        Text.Utf16.exists_littleEndian_eq (Text.Utf16.lt_of_mem_unitsOf hunit)]
      exact bind_decode?_unitsOf c _

/-! ## Texts -/

section

variable {s : List Char}

theorem decode?_nil (charset : Charset) : charset.decode? [] = some [] := by
  cases charset <;> rfl

theorem decode?_encode (h : charset.encode s = .ok bytes) : charset.decode? bytes = some s := by
  induction s generalizing bytes with
  | nil =>
      cases h
      exact charset.decode?_nil
  | cons c rest ih =>
      unfold encode at h
      split at h
      · cases h
      · rename_i first hfirst
        split at h
        · rename_i more hmore
          cases h
          rw [decode?_encodeChar_append hfirst, ih hmore, Option.map_some]
        · cases h

/-- A text is encoded unless the set lacks a character; the first such one is told. -/
theorem encode_eq_error_iff {r : Refusal} :
    charset.encode s = .error r <->
      exists c, s.find? (fun c => !charset.has c) = some c ∧ r = .missing c := by
  induction s with
  | nil =>
      simp [encode]
  | cons c rest ih =>
      unfold encode
      cases hbytes : charset.encodeChar? c with
      | none =>
          have hc := encodeChar?_eq_none_iff.mp hbytes
          rw [List.find?_cons_of_pos (by simp [hc])]
          simp [eq_comm]
      | some first =>
          have hc : charset.has c = true := by
            rw [← Bool.not_eq_false, ← encodeChar?_eq_none_iff, hbytes]
            simp
          rw [List.find?_cons_of_neg (by simp [hc]), ← ih]
          cases charset.encode rest <;> simp

theorem exists_encode_eq_ok_iff :
    (exists bytes, charset.encode s = .ok bytes) <-> forall c, c ∈ s -> charset.has c = true := by
  have hnone : (forall c, c ∈ s -> charset.has c = true) <->
      s.find? (fun c => !charset.has c) = none := by
    simp [List.find?_eq_none]
  rw [hnone]
  cases hencode : charset.encode s with
  | ok bytes =>
      constructor
      · intro _
        rw [Option.eq_none_iff_forall_ne_some]
        intro c hc
        have herror := encode_eq_error_iff.mpr ⟨c, hc, rfl⟩
        rw [hencode] at herror
        cases herror
      · intro _
        exact ⟨bytes, rfl⟩
  | error r =>
      obtain ⟨c, hc, _⟩ := encode_eq_error_iff.mp hencode
      simp [hc]

end

end Charset

/-! ## Text bodies -/

def Body.encodeText (label text : String) : Except Error (List UInt8) :=
  (Charset.encodeAs label text).mapError (Error.encoding label)

namespace Draft

theorem setBodyText_eq (d : Draft) (content contentType : String) :
    d.setBodyText content contentType = do
      let encoded <- Body.encodeText (ContentType.bodyCharset contentType) content
      let next <- d.setContentType contentType
      return { next with body := .text content contentType encoded } := by
  unfold setBodyText Body.encodeText
  dsimp only
  cases Charset.encodeAs (ContentType.bodyCharset contentType) content with
  | error cause =>
      rfl
  | ok encoded =>
      cases d.setContentType contentType <;> rfl

end Draft

namespace Body

variable {charset : Charset} {label text : String} {bytes : List UInt8}

theorem encodeText_of_isNamed (h : charset.IsNamed label) (text : String) :
    encodeText label text =
      (charset.encode text.toList).mapError (Error.encoding label) := by
  unfold encodeText Charset.encodeAs
  rw [Charset.ofLabel?_eq_some_iff.mpr h]

theorem encodeText_of_unknown (h : forall charset : Charset, ¬ charset.IsNamed label)
    (text : String) : encodeText label text = .error (.encoding label .unknownLabel) := by
  unfold encodeText Charset.encodeAs
  rw [Charset.ofLabel?_eq_none_iff.mpr h]
  rfl

theorem exists_isNamed_of_encodeText (h : encodeText label text = .ok bytes) :
    exists charset : Charset, charset.IsNamed label := by
  cases hlabel : Charset.ofLabel? label with
  | some charset =>
      exact ⟨charset, Charset.ofLabel?_eq_some_iff.mp hlabel⟩
  | none =>
      rw [encodeText_of_unknown (Charset.ofLabel?_eq_none_iff.mp hlabel)] at h
      cases h

theorem encode_of_encodeText (hlabel : charset.IsNamed label)
    (h : encodeText label text = .ok bytes) : charset.encode text.toList = .ok bytes := by
  rw [encodeText_of_isNamed hlabel] at h
  cases hencode : charset.encode text.toList with
  | ok bytes =>
      rw [hencode] at h
      cases h
      rfl
  | error r =>
      rw [hencode] at h
      cases h

theorem decode?_of_encodeText (hlabel : charset.IsNamed label)
    (h : encodeText label text = .ok bytes) : charset.decode? bytes = some text.toList :=
  Charset.decode?_encode (encode_of_encodeText hlabel h)

theorem exists_encodeText_eq_ok_iff :
    (exists bytes, encodeText label text = .ok bytes) <->
      exists charset : Charset, charset.IsNamed label ∧
        forall c, c ∈ text.toList -> charset.has c = true := by
  constructor
  · rintro ⟨bytes, h⟩
    obtain ⟨charset, hlabel⟩ := exists_isNamed_of_encodeText h
    exact ⟨charset, hlabel,
      Charset.exists_encode_eq_ok_iff.mp ⟨bytes, encode_of_encodeText hlabel h⟩⟩
  · rintro ⟨charset, hlabel, hall⟩
    obtain ⟨bytes, hbytes⟩ := Charset.exists_encode_eq_ok_iff.mpr hall
    refine ⟨bytes, ?_⟩
    rw [encodeText_of_isNamed hlabel, hbytes]
    rfl

/-- A text is encoded exactly if its label names a character set that has all its characters.
The bytes are decoded to the text again, so that no other text has them.  Otherwise the error
tells the label as it was given, and the first character that the set does not have or that
no set is so named; the setting of a text body of this label fails with the same error. -/
theorem encodings_exact_and_reversible (label text : String) :
    ((exists bytes, encodeText label text = .ok bytes) <->
        exists charset : Charset, charset.IsNamed label ∧
          forall c, c ∈ text.toList -> charset.has c = true) ∧
      (forall charset : Charset, charset.IsNamed label -> forall bytes,
        encodeText label text = .ok bytes -> charset.decode? bytes = some text.toList) ∧
      (forall other bytes, encodeText label text = .ok bytes ->
        encodeText label other = .ok bytes -> text = other) ∧
      (forall charset : Charset, charset.IsNamed label -> forall c,
        text.toList.find? (fun c => !charset.has c) = some c ->
        encodeText label text = .error (.encoding label (.missing c))) ∧
      ((forall charset : Charset, ¬ charset.IsNamed label) ->
        encodeText label text = .error (.encoding label .unknownLabel)) ∧
      Charset.Refusal.text .unknownLabel = "unsupported charset" ∧
      forall e contentType (d : Draft), encodeText label text = .error e ->
        ContentType.bodyCharset contentType = label ->
        d.setBodyText text contentType = .error e := by
  refine ⟨exists_encodeText_eq_ok_iff, ?_, ?_, ?_, ?_, rfl, ?_⟩
  · intro charset hlabel bytes h
    exact decode?_of_encodeText hlabel h
  · intro other bytes htext hother
    obtain ⟨charset, hlabel⟩ := exists_isNamed_of_encodeText htext
    have hsame : some text.toList = some other.toList :=
      (decode?_of_encodeText hlabel htext).symm.trans (decode?_of_encodeText hlabel hother)
    exact String.toList_inj.mp (Option.some.inj hsame)
  · intro charset hlabel c hc
    rw [encodeText_of_isNamed hlabel, Charset.encode_eq_error_iff.mpr ⟨c, hc, rfl⟩]
    rfl
  · intro hlabel
    exact encodeText_of_unknown hlabel text
  · rintro e contentType d h rfl
    rw [Draft.setBodyText_eq, h]
    rfl

theorem encodings_exact_and_reversible_of_accent :
    encodeText "ISO-8859-1" "caf\u00e9" = .ok [0x63, 0x61, 0x66, 0xE9] ∧
      Charset.latin1.decode? [0x63, 0x61, 0x66, 0xE9] = some "caf\u00e9".toList ∧
      encodeText "US-ascii" "caf\u00e9\u20ac" =
        .error (.encoding "US-ascii" (.missing '\u00e9')) := by
  have hlatin : Charset.latin1.IsNamed "ISO-8859-1" := by decide +kernel
  have hascii : Charset.ascii.IsNamed "US-ascii" := by decide +kernel
  have hbytes : encodeText "ISO-8859-1" "caf\u00e9" = .ok [0x63, 0x61, 0x66, 0xE9] := by
    rfl
  refine ⟨hbytes, ?_, ?_⟩
  · exact (encodings_exact_and_reversible "ISO-8859-1" "caf\u00e9").right.left _ hlatin _ hbytes
  · exact (encodings_exact_and_reversible "US-ascii" "caf\u00e9\u20ac").right.right.right.left _
      hascii _ (by decide +kernel)

end Body
end HttpCall
