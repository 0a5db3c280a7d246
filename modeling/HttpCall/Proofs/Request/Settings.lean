import HttpCall.Client
import HttpCall.Proofs.Body.Charset

/-!
# Settings one after the other

Clients and drafts are changed by settings.  A setting that is refused changes nothing, and
whether it is refused does not depend on what it would change; so what a series of settings
comes to is told by the accepted ones, and what each of those asks for is told by a table.
-/

namespace HttpCall

/-!
## Series of settings
-/

namespace Settings

section

variable {state setting error view : Type}

/-- Make a setting, or keep the state if it is refused. -/
def keep (apply : state -> setting -> Except error state) (x : state) (s : setting) : state :=
  match apply x s with
  | .ok y => y
  | .error _ => x

/-- The settings that are accepted when their turn comes. -/
def accepted (apply : state -> setting -> Except error state) :
    state -> List setting -> List setting
  | _, [] => []
  | x, s :: rest =>
      match apply x s with
      | .ok y => s :: accepted apply y rest
      | .error _ => accepted apply x rest

variable {apply : state -> setting -> Except error state} {x y : state} {s t : setting}

theorem keep_of_ok (h : apply x s = .ok y) : keep apply x s = y := by
  simp only [keep, h]

theorem keep_of_error {e : error} (h : apply x s = .error e) : keep apply x s = x := by
  simp only [keep, h]

theorem accepted_of_ok (h : apply x s = .ok y) (rest : List setting) :
    accepted apply x (s :: rest) = s :: accepted apply y rest := by
  simp only [accepted, h]

theorem accepted_of_error {e : error} (h : apply x s = .error e) (rest : List setting) :
    accepted apply x (s :: rest) = accepted apply x rest := by
  simp only [accepted, h]

theorem apply_of_mem_accepted {settings : List setting} (h : s ∈ accepted apply x settings) :
    exists y z, apply y s = .ok z := by
  induction settings generalizing x with
  | nil =>
      cases h
  | cons t rest ih =>
      cases ht : apply x t with
      | ok y =>
          rw [accepted_of_ok ht] at h
          rcases List.mem_cons.mp h with rfl | h
          · exact ⟨x, y, ht⟩
          · exact ih h
      | error e =>
          rw [accepted_of_error ht] at h
          exact ih h

/-- What holds at first and is kept by all settings that are accepted holds in the end. -/
theorem foldl_keep_induction {inv : state -> Prop}
    (step : forall {x s y}, apply x s = .ok y -> inv x -> inv y) (hx : inv x)
    (settings : List setting) : inv (settings.foldl (keep apply) x) := by
  induction settings generalizing x with
  | nil =>
      exact hx
  | cons s rest ih =>
      rw [List.foldl_cons]
      cases h : apply x s with
      | ok y =>
          rw [keep_of_ok h]
          exact ih (step h hx)
      | error e =>
          rw [keep_of_error h]
          exact ih hx

theorem view_foldl_keep (see : state -> view) {effect : view -> setting -> view}
    (step : forall {x s y}, apply x s = .ok y -> see y = effect (see x) s) (x : state)
    (settings : List setting) :
    see (settings.foldl (keep apply) x) = (accepted apply x settings).foldl effect (see x) := by
  induction settings generalizing x with
  | nil =>
      rfl
  | cons s rest ih =>
      rw [List.foldl_cons]
      cases h : apply x s with
      | ok y =>
          rw [keep_of_ok h, accepted_of_ok h, List.foldl_cons, ih, step h]
      | error e =>
          rw [keep_of_error h, accepted_of_error h, ih]

/-- Two settings may change places if they come to much the same either way, and settings
make much the same of what is much the same. -/
theorem foldl_keep_swap {alike : state -> state -> Prop}
    (step : forall {x y} s, alike x y -> alike (keep apply x s) (keep apply y s))
    (swap : forall x, alike (keep apply (keep apply x s) t) (keep apply (keep apply x t) s))
    (x : state) (earlier later : List setting) :
    alike ((earlier ++ s :: t :: later).foldl (keep apply) x)
      ((earlier ++ t :: s :: later).foldl (keep apply) x) := by
  have hlater : forall {x y}, alike x y ->
      alike (later.foldl (keep apply) x) (later.foldl (keep apply) y) := by
    induction later with
    | nil =>
        exact fun h => h
    | cons r rest ih =>
        exact fun h => ih (step r h)
  simp only [List.foldl_append, List.foldl_cons]
  exact hlater (swap _)

end

theorem foldl_or {item value : Type} (gives : item -> Option value) (items : List item)
    (first : Option value) :
    items.foldl (fun v i => (gives i).or v) first =
      ((items.filterMap gives).getLast?).or first := by
  induction items generalizing first with
  | nil =>
      rfl
  | cons i rest ih =>
      rw [List.foldl_cons, ih]
      cases hi : gives i with
      | none =>
          rw [List.filterMap_cons_none hi, Option.none_or]
      | some v =>
          rw [List.filterMap_cons_some hi, List.getLast?_cons, Option.some_or, Option.or_some,
            Option.some_or]

theorem foldl_getD {item value : Type} (gives : item -> Option value) (items : List item)
    (first : value) :
    items.foldl (fun v i => (gives i).getD v) first =
      ((items.filterMap gives).getLast?).getD first := by
  have hsome : items.foldl (fun v i => (gives i).or v) (some first) =
      some (items.foldl (fun v i => (gives i).getD v) first) :=
    List.foldl_hom some fun _ _ => Option.or_some
  rw [foldl_or, Option.or_some] at hsome
  exact (Option.some.inj hsome).symm

end Settings

/-!
## Edits of headers
-/

namespace Headers

inductive Edit where
  | replace (value : HeaderValue)
  | add (value : HeaderValue)
  | clear
deriving DecidableEq, Repr

def Edit.apply : Edit -> List HeaderValue -> List HeaderValue
  | replace value, _ => [value]
  | add value, values => values ++ [value]
  | clear, _ => []

def edit (h : Headers) (name : String) (e : Edit) : Headers :=
  match HeaderName.parse? name with
  | none => h
  | some n =>
      match e with
      | .replace value => h.insert n value
      | .add value => h.append n value
      | .clear => h.erase n

def editIf (h : Headers) : Option (String × Edit) -> Headers
  | none => h
  | some e => h.edit e.1 e.2

def editValues (n : HeaderName) (values : List HeaderValue) (e : String × Edit) :
    List HeaderValue :=
  if HeaderName.parse? e.1 = some n then e.2.apply values else values

theorem values_edit (h : Headers) (name : String) (e : Edit) (n : HeaderName) :
    (h.edit name e).values n = editValues n (h.values n) (name, e) := by
  unfold edit editValues
  cases hname : HeaderName.parse? name with
  | none =>
      rfl
  | some m =>
      by_cases hm : m = n
      · subst hm
        cases e <;> simp [Edit.apply]
      · have hne : n ≠ m := fun heq => hm heq.symm
        rw [if_neg fun heq => hm (Option.some.inj heq)]
        cases e with
        | replace value =>
            exact values_insert_of_ne h value hne
        | add value =>
            exact values_append_of_ne h value hne
        | clear =>
            exact values_erase_of_ne h hne

end Headers

/-!
## Drafts
-/

namespace Draft

/-- What a setting asks for: new parts of a draft, or the edit of a header. -/
structure Change where
  method : Option Method := none
  url : Option Url := none
  version : Option ProtocolVersion := none
  edit : Option (String × Headers.Edit) := none
  body : Option Body := none
  followRedirects : Option Bool := none
  maxRedirects : Option Nat := none
  timeout : Option Duration := none

def Change.make (c : Change) (d : Draft) : Draft where
  method := c.method.getD d.method
  url := c.url.or d.url
  version := c.version.getD d.version
  headers := d.headers.editIf c.edit
  body := c.body.getD d.body
  followRedirects := c.followRedirects.getD d.followRedirects
  maxRedirects := c.maxRedirects.getD d.maxRedirects
  timeout := c.timeout.or d.timeout

def Change.ofContentType (contentType : String) (body : Option Body) : Change where
  edit := some ("content-type", .replace (.ofPlain contentType))
  body := body

def Change.ofUtf8 (content contentType : String) : Change :=
  .ofContentType contentType (some (.text content contentType (Text.Utf8.encode content.toList)))

namespace Setting

def change : Setting -> Change
  | .method name => { method := Method.parse? name }
  | .timeout limit => { timeout := some limit }
  | .version spelling => { version := ProtocolVersion.ofText? spelling }
  | .url written => { url := (Url.parse written).toOption }
  | .header name value => { edit := some (name, .replace (.ofPlain value)) }
  | .addHeader name value => { edit := some (name, .add (.ofPlain value)) }
  | .removeHeader name => { edit := some (name, .clear) }
  | .contentType value => .ofContentType value none
  | .acceptGzip true => { edit := some ("accept-encoding", .replace (.ofPlain "gzip")) }
  | .acceptGzip false => { edit := some ("accept-encoding", .clear) }
  | .followRedirects follow => { followRedirects := some follow }
  | .maxRedirects limit => { maxRedirects := some limit }
  | .userAgent value => { edit := some ("user-agent", .replace (.ofPlain value)) }
  | .bodyText content type =>
      .ofContentType type
        ((Body.encodeText (ContentType.bodyCharset type) content).toOption.map
          (.text content type))
  | .text content => .ofUtf8 content "text/plain; charset=utf-8"
  | .json content => .ofUtf8 content "application/json; charset=utf-8"
  | .jsonValue (.ok value) => .ofUtf8 value.compact "application/json; charset=utf-8"
  | .jsonValue (.error _) => {}
  | .xml content => .ofUtf8 content "application/xml; charset=utf-8"
  | .bodyBytes bytes type => .ofContentType type (some (.binary bytes type))

/-- The setting is refused, whatever the draft is. -/
def IsRefused (s : Setting) : Prop := exists e, forall d : Draft, d.apply s = .error e

/-- The setting does what it asks for, whatever the draft is. -/
def IsMade (s : Setting) : Prop := forall d : Draft, d.apply s = .ok (s.change.make d)

end Setting

theorem applyOrKeep_eq : applyOrKeep = Settings.keep apply := by
  funext d s
  unfold applyOrKeep Settings.keep
  cases d.apply s <;> rfl

theorem headerField_eq (name value : String) :
    (exists e, headerField name value = .error e) ∨
      exists n, HeaderName.parse? name = some n ∧
        headerField name value = .ok (n, .ofPlain value) := by
  unfold headerField
  cases HeaderName.parse? name with
  | none =>
      exact Or.inl ⟨_, rfl⟩
  | some n =>
      by_cases hallowed : (Text.Utf8.encode value.toList).all HeaderValue.isAllowed = true
      · have hvalue : HeaderValue.parse? value = some (.ofPlain value) := if_pos hallowed
        rw [hvalue]
        exact Or.inr ⟨n, rfl, rfl⟩
      · have hvalue : HeaderValue.parse? value = none := if_neg hallowed
        rw [hvalue]
        exact Or.inl ⟨_, rfl⟩

theorem of_headerField {state : Type} {name value : String}
    {make : state -> HeaderName -> HeaderValue -> state} {set : state -> Except Error state}
    {made : state -> state}
    (hset : forall x, set x =
      match headerField name value with
      | .ok (n, v) => .ok (make x n v)
      | .error e => .error e)
    (hmade : forall x n, HeaderName.parse? name = some n -> make x n (.ofPlain value) = made x) :
    (exists e, forall x, set x = .error e) ∨ forall x, set x = .ok (made x) := by
  rcases headerField_eq name value with ⟨e, hfield⟩ | ⟨n, hname, hfield⟩
  · refine Or.inl ⟨e, fun x => ?_⟩
    rw [hset, hfield]
  · refine Or.inr fun x => ?_
    rw [hset, hfield]
    exact congrArg Except.ok (hmade x n hname)

theorem setHeader_eq (name value : String) :
    (exists e, forall d : Draft, d.setHeader name value = .error e) ∨
      forall d : Draft, d.setHeader name value =
        .ok { d with headers := d.headers.edit name (.replace (.ofPlain value)) } := by
  refine of_headerField (fun _ => rfl) fun d n hname => ?_
  simp only [Headers.edit, hname]

theorem addHeader_eq (name value : String) :
    (exists e, forall d : Draft, d.addHeader name value = .error e) ∨
      forall d : Draft, d.addHeader name value =
        .ok { d with headers := d.headers.edit name (.add (.ofPlain value)) } := by
  refine of_headerField (fun _ => rfl) fun d n hname => ?_
  simp only [Headers.edit, hname]

theorem removeHeader_eq (name : String) (d : Draft) :
    d.removeHeader name = { d with headers := d.headers.edit name .clear } := by
  unfold removeHeader Headers.edit
  cases HeaderName.parse? name <;> rfl

theorem setContentType_eq (value : String) :
    (exists e, forall d : Draft, d.setContentType value = .error e) ∨
      forall d : Draft, d.setContentType value = .ok ((Change.ofContentType value none).make d) :=
  setHeader_eq "content-type" value

/-- Every setting is refused or does what it asks for, whatever the draft is. -/
theorem isRefused_or_isMade (s : Setting) : s.IsRefused ∨ s.IsMade := by
  cases s with
  | method name =>
      unfold Setting.IsRefused Setting.IsMade
      simp only [apply, setMethod, Setting.change, Change.make]
      cases Method.parse? name with
      | none =>
          exact Or.inl ⟨_, fun _ => rfl⟩
      | some m =>
          exact Or.inr fun _ => rfl
  | timeout limit =>
      unfold Setting.IsRefused Setting.IsMade
      simp only [apply, setTimeout]
      split
      · exact Or.inl ⟨_, fun _ => rfl⟩
      · exact Or.inr fun _ => rfl
  | version spelling =>
      unfold Setting.IsRefused Setting.IsMade
      simp only [apply, setVersion, Setting.change]
      cases ProtocolVersion.ofText? spelling with
      | none =>
          exact Or.inl ⟨_, fun _ => rfl⟩
      | some version =>
          dsimp only
          split
          · exact Or.inr fun _ => rfl
          · exact Or.inl ⟨_, fun _ => rfl⟩
  | url written =>
      unfold Setting.IsRefused Setting.IsMade
      simp only [apply, setUrl, Setting.change]
      cases Url.parse written with
      | error cause =>
          exact Or.inl ⟨_, fun _ => rfl⟩
      | ok url =>
          dsimp only
          split
          · exact Or.inl ⟨_, fun _ => rfl⟩
          · split
            · exact Or.inl ⟨_, fun _ => rfl⟩
            · exact Or.inr fun _ => rfl
  | header name value =>
      exact setHeader_eq name value
  | addHeader name value =>
      exact addHeader_eq name value
  | removeHeader name =>
      exact Or.inr fun d => congrArg Except.ok (removeHeader_eq name d)
  | contentType value =>
      exact setContentType_eq value
  | acceptGzip wanted =>
      cases wanted <;> exact Or.inr fun _ => rfl
  | followRedirects follow =>
      exact Or.inr fun _ => rfl
  | maxRedirects limit =>
      exact Or.inr fun _ => rfl
  | userAgent value =>
      exact setHeader_eq "user-agent" value
  | bodyText content type =>
      unfold Setting.IsRefused Setting.IsMade
      simp only [apply, setBodyText_eq, Setting.change]
      cases Body.encodeText (ContentType.bodyCharset type) content with
      | error e =>
          exact Or.inl ⟨_, fun _ => rfl⟩
      | ok encoded =>
          rcases setContentType_eq type with ⟨e, hrefused⟩ | hmade
          · refine Or.inl ⟨e, fun d => ?_⟩
            rw [hrefused]
            rfl
          · refine Or.inr fun d => ?_
            rw [hmade]
            rfl
  | text content =>
      exact Or.inr fun _ => rfl
  | json content =>
      exact Or.inr fun _ => rfl
  | jsonValue value? =>
      cases value? with
      | ok value =>
          exact Or.inr fun _ => rfl
      | error message =>
          exact Or.inl ⟨_, fun _ => rfl⟩
  | xml content =>
      exact Or.inr fun _ => rfl
  | bodyBytes bytes type =>
      unfold Setting.IsRefused Setting.IsMade
      simp only [apply, setBodyBytes, Setting.change]
      rcases setContentType_eq type with ⟨e, hrefused⟩ | hmade
      · refine Or.inl ⟨e, fun d => ?_⟩
        rw [hrefused]
      · refine Or.inr fun d => ?_
        rw [hmade]
        rfl

section

variable {s : Setting} {d e : Draft}

theorem isMade_of_apply (h : d.apply s = .ok e) : s.IsMade := by
  rcases isRefused_or_isMade s with ⟨cause, hrefused⟩ | hmade
  · cases h.symm.trans (hrefused d)
  · exact hmade

theorem eq_make_of_apply (h : d.apply s = .ok e) : e = s.change.make d := by
  have hmade := isMade_of_apply h d
  rw [h] at hmade
  exact Except.ok.inj hmade

end

/-!
## What a series of settings comes to
-/

/-- The settings that are accepted when their turn comes. -/
def accepted (d : Draft) (settings : List Setting) : List Setting :=
  Settings.accepted apply d settings

theorem isMade_of_mem_accepted {d : Draft} {settings : List Setting} {s : Setting}
    (h : s ∈ d.accepted settings) : s.IsMade := by
  obtain ⟨_, _, happly⟩ := Settings.apply_of_mem_accepted h
  exact isMade_of_apply happly

section

variable (d : Draft) (settings : List Setting)

theorem url_outcome :
    (settings.foldl applyOrKeep d).url =
      (((d.accepted settings).filterMap (·.change.url)).getLast?).or d.url := by
  rw [applyOrKeep_eq, ← Settings.foldl_or]
  exact Settings.view_foldl_keep Draft.url (fun h => congrArg Draft.url (eq_make_of_apply h)) d
    settings

theorem body_outcome :
    (settings.foldl applyOrKeep d).body =
      (((d.accepted settings).filterMap (·.change.body)).getLast?).getD d.body := by
  rw [applyOrKeep_eq, ← Settings.foldl_getD]
  exact Settings.view_foldl_keep Draft.body (fun h => congrArg Draft.body (eq_make_of_apply h)) d
    settings

theorem values_outcome (n : HeaderName) :
    (settings.foldl applyOrKeep d).headers.values n =
      ((d.accepted settings).filterMap (·.change.edit)).foldl (Headers.editValues n)
        (d.headers.values n) := by
  rw [applyOrKeep_eq, List.foldl_filterMap]
  refine Settings.view_foldl_keep (fun d => d.headers.values n) (fun {x s y} h => ?_) d settings
  have hmake : y.headers = x.headers.editIf s.change.edit :=
    congrArg Draft.headers (eq_make_of_apply h)
  rw [hmake]
  cases s.change.edit with
  | none =>
      rfl
  | some e =>
      exact Headers.values_edit x.headers e.1 e.2 n

end

/-- The request has the parts of the draft. -/
structure Builds (d : Draft) (r : Request) : Prop where
  url : d.url = some r.url
  version : r.version = d.version
  headers : r.headers = d.headers
  body : r.body = d.body

theorem builds_of_build {d : Draft} {r : Request} (h : d.build = .ok r) : d.Builds r := by
  unfold build at h
  split at h
  · cases h
  · rename_i url hurl
    split at h
    · cases h
    · cases h
      exact ⟨hurl, rfl, rfl, rfl⟩

end Draft

/-!
## Clients
-/

namespace Client

def applyOrKeep : Client -> Setting -> Client := Settings.keep apply

def accepted (c : Client) (settings : List Setting) : List Setting :=
  Settings.accepted apply c settings

def Setting.edit? : Setting -> Option (String × Headers.Edit)
  | .defaultHeader name value => some (name, .replace (.ofPlain value))
  | .userAgent value => some ("user-agent", .replace (.ofPlain value))
  | _ => none

def withHeaders (c : Client) (h : Headers) : Client := { c with defaultHeaders := h }

section

variable {s : Setting}

theorem setDefaultHeader_eq (name value : String) :
    (exists e, forall c : Client, c.setDefaultHeader name value = .error e) ∨
      forall c : Client, c.setDefaultHeader name value =
        .ok (c.withHeaders (c.defaultHeaders.edit name (.replace (.ofPlain value)))) := by
  refine Draft.of_headerField (fun _ => rfl) fun c n hname => ?_
  simp only [Headers.edit, hname, withHeaders]

theorem apply_of_edit {e : String × Headers.Edit} (h : s.edit? = some e) :
    (exists cause, forall c : Client, c.apply s = .error cause) ∨
      forall c : Client, c.apply s = .ok (c.withHeaders (c.defaultHeaders.edit e.1 e.2)) := by
  cases s with
  | defaultHeader name value =>
      cases h
      exact setDefaultHeader_eq name value
  | userAgent value =>
      cases h
      exact setDefaultHeader_eq "user-agent" value
  | timeout _ | followRedirects _ | maxRedirects _ | maxConnections _ | acquireTimeout _
  | policy _ =>
      cases h

theorem view_applyOrKeep_of_edit {view : Type} (see : Client -> view)
    (hsee : forall c headers, see (c.withHeaders headers) = see c)
    {e : String × Headers.Edit} (h : s.edit? = some e) (c : Client) :
    see (c.applyOrKeep s) = see c := by
  unfold applyOrKeep
  rcases apply_of_edit h with ⟨cause, hrefused⟩ | hmade
  · rw [Settings.keep_of_error (hrefused c)]
  · rw [Settings.keep_of_ok (hmade c), hsee]

theorem apply_of_no_edit (h : s.edit? = none) (c : Client) :
    exists c', c.apply s = .ok c' ∧ forall headers,
      (c.withHeaders headers).apply s = .ok (c'.withHeaders headers) := by
  cases s with
  | defaultHeader _ _ | userAgent _ =>
      cases h
  | timeout _ | followRedirects _ | maxRedirects _ | maxConnections _ | acquireTimeout _
  | policy _ =>
      exact ⟨_, rfl, fun _ => rfl⟩

end

theorem values_outcome (c : Client) (settings : List Setting) (n : HeaderName) :
    (settings.foldl applyOrKeep c).defaultHeaders.values n =
      ((c.accepted settings).filterMap Setting.edit?).foldl (Headers.editValues n)
        (c.defaultHeaders.values n) := by
  rw [List.foldl_filterMap]
  refine Settings.view_foldl_keep (fun c => c.defaultHeaders.values n) (fun {x s y} h => ?_) c
    settings
  cases hedit : s.edit? with
  | none =>
      obtain ⟨x', _, hsame⟩ := apply_of_no_edit hedit x
      cases h.symm.trans (hsame x.defaultHeaders)
      rfl
  | some e =>
      rcases apply_of_edit hedit with ⟨cause, hrefused⟩ | hmade
      · cases h.symm.trans (hrefused x)
      · cases h.symm.trans (hmade x)
        exact Headers.values_edit x.defaultHeaders e.1 e.2 n

/-!
## How a draft is begun
-/

/-- A draft is begun without a URL, or with a method and a URL. -/
inductive Beginning where
  | blank
  | request (method : Method) (url : String)

def Beginning.settings : Beginning -> List Draft.Setting
  | blank => []
  | request _ url => [.url url]

def begin (c : Client) : Beginning -> Except Error Draft
  | .blank => .ok c.draft
  | .request method url => c.request method url

structure Begins (c : Client) (b : Beginning) (d : Draft) : Prop where
  url : d.url = (b.settings.filterMap (·.change.url)).getLast?
  version : d.version = .http11
  headers : d.headers = c.defaultHeaders
  body : d.body = .empty

theorem begins_of_begin {c : Client} {b : Beginning} {d : Draft} (h : c.begin b = .ok d) :
    c.Begins b d := by
  cases b with
  | blank =>
      cases h
      exact ⟨rfl, rfl, rfl, rfl⟩
  | request method url =>
      have hsetting : { c.draft with method := method }.apply (.url url) = .ok d := h
      rw [Draft.eq_make_of_apply hsetting]
      refine ⟨?_, rfl, rfl, rfl⟩
      change ((Draft.Setting.url url).change.url).or none = _
      rw [Option.or_none, Beginning.settings, List.filterMap_cons]
      cases (Draft.Setting.url url).change.url <;> rfl

end Client
end HttpCall
