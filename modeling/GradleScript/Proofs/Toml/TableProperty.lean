import GradleScript.Proofs.Except
import GradleScript.Toml.Document

/-!
# Properties of the tables of a document

The tables of a document are built entry by entry: a key that is new gets a value, a table or an
array that a key has is changed, and a table that a longer header has implied is taken away from its
place, to be opened by its own header. A property that each of these steps keeps is one of the whole
document.

## Main definitions

* `TableProperty`: a property of values that building a table keeps
* `TableProperty.Admits`: the lines whose keys may be added to a table with a header

## Main results

* `TableProperty.within?`: reaching into a table keeps the property
* `TableProperty.ofValue_of_written`: the values that are written have it
* `TableProperty.OfDraft.read`: reading a line keeps it
* `TableProperty.ofEntries_of_parse`: documents have it
-/

namespace GradleScript.Toml

/-- Whether the table is opened by a header, sooner or later. -/
def Origin.isHeaded : Origin → Bool
  | .header => true
  | .implied => true
  | .dotted => false
  | .inline => false

/-- Whether the value has no parts. -/
def Value.isScalar : Value → Bool
  | .scalar .. => true
  | .array .. => false
  | .table .. => false

/-- A property of values, and what it asks of the entries of a table that came to be in some way. A
scalar in a table with a header may need more than a key that is new. -/
structure TableProperty where
  OfValue : Value → Prop
  OfEntries : Origin → Entries → Prop
  scalar : ∀ span s, OfValue (.scalar span s)
  array : ∀ {span ofTables items},
    OfValue (.array span ofTables items) ↔ ∀ v ∈ items, OfValue v
  table : ∀ {span origin entries}, OfValue (.table span origin entries) ↔ OfEntries origin entries
  nil : ∀ origin, OfEntries origin []
  get? : ∀ {origin entries name value}, OfEntries origin entries →
    Entries.get? name entries = some value → OfValue value
  add : ∀ {origin entries key value}, OfEntries origin entries →
    Entries.get? key.name entries = none → OfValue value →
      (origin.isHeaded = true → value.isScalar = false) → OfEntries origin (entries.add key value)
  set : ∀ {origin entries name value}, OfEntries origin entries → OfValue value →
    value.isScalar = false → OfEntries origin (entries.set name value)
  erase : ∀ {origin entries} name, OfEntries origin entries →
    OfEntries origin (Entries.erase name entries)
  reopen : ∀ {entries}, OfEntries .implied entries → OfEntries .header entries

theorem eq_of_expect_eq_ok {α : Type} {o : Option α} {a : α} (h : expect o = .ok a) :
    o = some a := by
  cases o with
  | none => simp [expect] at h
  | some b => simpa [expect] using h

/-- If nothing is made of the origin at the end of the path, that of the first table counts
nowhere. -/
theorem Entries.within?_eq_within? {α : Type} {dotted : Bool}
    {f : Entries → Option (Entries × α)} (path : List Key) (origin origin' : Origin)
    (entries : Entries) :
    Entries.within? dotted (fun _ => f) path origin entries =
      Entries.within? dotted (fun _ => f) path origin' entries := by
  cases path <;> rfl

namespace TableProperty

variable (p : TableProperty) {origin : Origin} {entries entries' : Entries}

/-! ## Tables -/

/-- Reaching into a table keeps the property if what is done there does. What it hands back, here
`a`, has any property that it always has. -/
theorem within? {α : Type} {Q : α → Prop} {dotted : Bool}
    {act : Origin → Entries → Option (Entries × α)}
    (hact : ∀ origin inner inner' a, p.OfEntries origin inner →
      act origin inner = some (inner', a) → p.OfEntries origin inner' ∧ Q a)
    (path : List Key) {a : α} (h : p.OfEntries origin entries)
    (e : Entries.within? dotted act path origin entries = some (entries', a)) :
    p.OfEntries origin entries' ∧ Q a := by
  induction path generalizing origin entries entries' a with
  | nil => exact hact origin entries entries' a h e
  | cons key path ih =>
    rw [Entries.within?] at e
    split at e
    · next hk =>
      simp only [Option.bind_eq_bind, Option.bind_eq_some_iff, Option.some.injEq,
        Prod.mk.injEq] at e
      obtain ⟨⟨inner, b⟩, he, rfl, rfl⟩ := e
      obtain ⟨hi, hq⟩ := ih (p.nil _) he
      exact ⟨p.add h hk (p.table.2 hi) fun _ => rfl, hq⟩
    · next span origin' inner hk =>
      split at e
      · simp at e
      · simp only [Option.bind_eq_bind, Option.bind_eq_some_iff, Option.some.injEq,
          Prod.mk.injEq] at e
        obtain ⟨⟨inner', b⟩, he, rfl, rfl⟩ := e
        obtain ⟨hi, hq⟩ := ih (p.table.1 (p.get? h hk)) he
        exact ⟨p.set h (p.table.2 hi) rfl, hq⟩
    · next span items hk =>
      split at e
      · next tableSpan origin' inner hl =>
        have each := p.array.1 (p.get? h hk)
        simp only [Option.bind_eq_bind, Option.bind_eq_some_iff, Option.some.injEq,
          Prod.mk.injEq] at e
        obtain ⟨⟨inner', b⟩, he, rfl, rfl⟩ := e
        obtain ⟨hi, hq⟩ := ih (p.table.1 (each _ (List.mem_of_getLast? hl))) he
        refine ⟨p.set h (p.array.2 fun v hv => ?_) rfl, hq⟩
        rcases List.mem_append.1 hv with hv | hv
        · exact each v ((List.dropLast_sublist _).mem hv)
        · rw [List.mem_singleton.1 hv]
          exact p.table.2 hi
      · simp at e
    · simp at e

/-- Defining a key keeps the property. A key without dots is one of the table itself; a dotted key
goes into a table without a header. -/
theorem define? (h : p.OfEntries origin entries) {key : KeyPath} {value : Value}
    (hv : p.OfValue value)
    (own : key.path = [] → entries.get? key.last.name = none →
      p.OfEntries origin (entries.add key.last value))
    (e : entries.define? key value = some entries') : p.OfEntries origin entries' := by
  simp only [Entries.define?, Option.bind_eq_bind, Option.bind_eq_some_iff, Option.some.injEq] at e
  obtain ⟨⟨inner, u⟩, he, rfl⟩ := e
  cases hp : key.path with
  | nil =>
    rw [hp, Entries.within?] at he
    split at he
    · next hc =>
      simp only [Option.some.injEq, Prod.mk.injEq] at he
      exact he.1 ▸ own hp (by simpa using hc.2)
    · simp at he
  | cons first rest =>
    rw [hp] at he
    -- the table itself is only reached through, so that its origin does not count
    have he : Entries.within? true _ (first :: rest) origin entries = some (inner, u) := he
    refine (p.within? (Q := fun _ => True) ?_ _ h he).1
    intro origin inner inner' a hi e
    split at e
    · next hc =>
      simp only [Option.some.injEq, Prod.mk.injEq] at e
      have dotted : origin = .dotted := by simpa [hp] using hc.1
      refine ⟨e.1 ▸ p.add hi (by simpa using hc.2) hv fun headed => ?_, trivial⟩
      rw [dotted] at headed
      cases headed
    · simp at e

/-! ## What is written -/

mutual

/-- What is written has the property. -/
theorem ofValue_of_written {v : Value} : (w : Written) → w.value = .ok v → p.OfValue v
  | .word w, h => by
    rw [Written.value] at h
    obtain ⟨scalar, -, h⟩ := Except.bind_eq_ok_iff.1 h
    cases h
    exact p.scalar w.span scalar
  | .array span items, h => by
    rw [Written.value] at h
    obtain ⟨vs, hvs, h⟩ := Except.bind_eq_ok_iff.1 h
    cases h
    exact p.array.2 (ofValue_of_writtenValues items hvs)
  | .table span fields, h => by
    rw [Written.value] at h
    obtain ⟨entries, he, h⟩ := Except.bind_eq_ok_iff.1 h
    cases h
    exact p.table.2 (ofEntries_of_writtenEntries fields (p.nil .inline) he)

theorem ofValue_of_writtenValues {vs : List Value} :
    (ws : List Written) → Written.values ws = .ok vs → ∀ v ∈ vs, p.OfValue v
  | [], h => by
    cases h
    simp
  | w :: rest, h => by
    rw [Written.values] at h
    obtain ⟨v, hv, h⟩ := Except.bind_eq_ok_iff.1 h
    obtain ⟨vs, hvs, h⟩ := Except.bind_eq_ok_iff.1 h
    cases h
    exact List.forall_mem_cons.2 ⟨ofValue_of_written w hv, ofValue_of_writtenValues rest hvs⟩

/-- A table in braces has no header, whatever goes into it. -/
theorem ofEntries_of_writtenEntries {entries entries' : Entries} :
    (fields : List (WrittenKey × Written)) → p.OfEntries .inline entries →
      Written.entries entries fields = .ok entries' → p.OfEntries .inline entries'
  | [], he, h => by
    cases h
    exact he
  | (key, w) :: rest, he, h => by
    rw [Written.entries] at h
    obtain ⟨path, -, h⟩ := Except.bind_eq_ok_iff.1 h
    obtain ⟨v, hv, h⟩ := Except.bind_eq_ok_iff.1 h
    obtain ⟨next, hn, h⟩ := Except.bind_eq_ok_iff.1 h
    have value := ofValue_of_written w hv
    have hd := p.define? he value (fun _ new => p.add he new value (by simp [Origin.isHeaded]))
      (eq_of_expect_eq_ok hn)
    exact ofEntries_of_writtenEntries rest hd h

end

end TableProperty

/-! ## Drafts -/

/-- How the table that is open came to be. Before the first header that is the document itself,
which is counted among the tables without a header. -/
def Draft.openOrigin (d : Draft) : Origin :=
  match d.header with
  | some _ => .header
  | none => .inline

namespace TableProperty

/-- The closed tables of a draft and the open one have the property. -/
structure OfDraft (p : TableProperty) (d : Draft) : Prop where
  root : p.OfEntries .inline d.root
  current : p.OfEntries d.openOrigin d.current

/-- If the line has a key without dots, then that may be added to any table with a header. -/
def Admits (p : TableProperty) : Line → Prop
  | .field key _ => ∀ k, KeyPath.ofWritten key = .ok ⟨[], k⟩ → ∀ entries value,
      p.OfEntries .header entries → Entries.get? k.name entries = none → p.OfValue value →
        p.OfEntries .header (entries.add k value)
  | .header .. => True

namespace OfDraft

variable {p : TableProperty} {d d' : Draft}

theorem empty (p : TableProperty) : p.OfDraft .empty := ⟨p.nil .inline, p.nil .inline⟩

theorem place? {origin : Origin} {header : Header} {table : Value} {inner inner' : Entries}
    {u : Unit} (hi : p.OfEntries origin inner) (ht : p.OfValue table)
    (noScalar : table.isScalar = false)
    (e : Draft.place? header table inner = some (inner', u)) : p.OfEntries origin inner' := by
  rw [Draft.place?] at e
  split at e
  · next hk _ =>
    simp only [Option.some.injEq, Prod.mk.injEq] at e
    exact e.1 ▸ p.add hi hk ht fun _ => noScalar
  · next hk _ =>
    simp only [Option.some.injEq, Prod.mk.injEq] at e
    exact e.1 ▸ p.add hi hk (p.array.2 (by simpa using ht)) fun _ => rfl
  · next span items hk _ =>
    simp only [Option.some.injEq, Prod.mk.injEq] at e
    refine e.1 ▸ p.set hi (p.array.2 ?_) rfl
    exact List.forall_mem_append.2 ⟨p.array.1 (p.get? hi hk), by simpa using ht⟩
  · simp at e

theorem close? (h : p.OfDraft d) {entries : Entries} (e : d.close? = some entries) :
    p.OfEntries .inline entries := by
  have current := h.current
  rw [Draft.close?] at e
  split at e
  · next hh =>
    cases e
    rwa [Draft.openOrigin, hh] at current
  · next header hh =>
    rw [Draft.openOrigin, hh] at current
    simp only [Option.bind_eq_bind, Option.bind_eq_some_iff, Option.some.injEq] at e
    obtain ⟨⟨root, u⟩, he, rfl⟩ := e
    rw [Entries.within?_eq_within? _ _ .inline] at he
    refine (p.within? (Q := fun _ => True) ?_ header.key.path h.root he).1
    exact fun _ _ _ _ hi e => ⟨place? hi (p.table.2 current) rfl e, trivial⟩

theorem reopen? {origin : Origin} {key : Key} {inner inner' taken : Entries}
    (hi : p.OfEntries origin inner) (e : Draft.reopen? key inner = some (inner', taken)) :
    p.OfEntries origin inner' ∧ p.OfEntries .header taken := by
  rw [Draft.reopen?] at e
  split at e
  · simp only [Option.some.injEq, Prod.mk.injEq] at e
    exact ⟨e.1 ▸ hi, e.2 ▸ p.nil .header⟩
  · next hk =>
    simp only [Option.some.injEq, Prod.mk.injEq] at e
    exact ⟨e.1 ▸ p.erase _ hi, e.2 ▸ p.reopen (p.table.1 (p.get? hi hk))⟩
  · simp at e

theorem open? {root : Entries} (h : p.OfEntries .inline root) {header : Header}
    (e : Draft.open? root header = some d) : p.OfDraft d := by
  rw [Draft.open?] at e
  split at e
  · cases e
    exact ⟨h, p.nil .header⟩
  · simp only [Option.bind_eq_bind, Option.bind_eq_some_iff, Option.some.injEq] at e
    obtain ⟨⟨root', current⟩, he, rfl⟩ := e
    rw [Entries.within?_eq_within? _ _ .inline] at he
    obtain ⟨hr, hc⟩ := p.within? (Q := p.OfEntries .header)
      (fun _ _ _ _ hi e => reopen? hi e) header.key.path h he
    exact ⟨hr, hc⟩

theorem define? (h : p.OfDraft d) {key : KeyPath} {value : Value} (hv : p.OfValue value)
    (own : d.openOrigin = .header → key.path = [] → ∀ entries, p.OfEntries .header entries →
      entries.get? key.last.name = none → p.OfEntries .header (entries.add key.last value))
    (e : d.define? key value = some d') : p.OfDraft d' := by
  simp only [Draft.define?, Option.bind_eq_bind, Option.bind_eq_some_iff, Option.some.injEq] at e
  obtain ⟨current, he, rfl⟩ := e
  refine ⟨h.root, p.define? h.current hv (fun single new => ?_) he⟩
  have current := h.current
  unfold Draft.openOrigin at own current ⊢
  cases hh : d.header with
  | none =>
    simp only [hh] at current ⊢
    exact p.add current new hv (by simp [Origin.isHeaded])
  | some header =>
    simp only [hh] at own current ⊢
    exact own trivial single _ current new

/-- Reading a line keeps the property. The key of the line counts only below a header. -/
theorem read (h : p.OfDraft d) {line : Line} (hl : d.openOrigin = .header → p.Admits line)
    (e : d.read line = .ok d') : p.OfDraft d' := by
  cases line with
  | field key value =>
    rw [Draft.read] at e
    obtain ⟨⟨path, last⟩, hp, e⟩ := Except.bind_eq_ok_iff.1 e
    obtain ⟨v, hv, e⟩ := Except.bind_eq_ok_iff.1 e
    have value := p.ofValue_of_written value hv
    refine h.define? value (fun header single entries he new => ?_) (eq_of_expect_eq_ok e)
    obtain rfl : path = [] := single
    exact hl header last hp entries v he new value
  | header ofArray span key =>
    rw [Draft.read] at e
    obtain ⟨root, hr, e⟩ := Except.bind_eq_ok_iff.1 e
    obtain ⟨path, -, e⟩ := Except.bind_eq_ok_iff.1 e
    exact open? (h.close? (eq_of_expect_eq_ok hr)) (eq_of_expect_eq_ok e)

/-- So does reading several lines. -/
theorem readAll (h : p.OfDraft d) {lines : List Line} (hl : ∀ line ∈ lines, p.Admits line)
    (e : lines.foldlM Draft.read d = .ok d') : p.OfDraft d' := by
  induction lines generalizing d with
  | nil =>
    cases e
    exact h
  | cons line rest ih =>
    rw [List.foldlM_cons] at e
    obtain ⟨next, hn, e⟩ := Except.bind_eq_ok_iff.1 e
    obtain ⟨first, others⟩ := List.forall_mem_cons.1 hl
    exact ih (h.read (fun _ => first) hn) others e

/-- A draft of some lines has the property. The first line is below no header. -/
theorem of_lines {lines : List Line} (hl : ∀ line ∈ lines.tail, p.Admits line)
    (e : lines.foldlM Draft.read .empty = .ok d) : p.OfDraft d := by
  cases lines with
  | nil =>
    cases e
    exact empty p
  | cons line rest =>
    rw [List.foldlM_cons] at e
    obtain ⟨next, hn, e⟩ := Except.bind_eq_ok_iff.1 e
    exact ((empty p).read (by simp [Draft.openOrigin, Draft.empty]) hn).readAll hl e

end OfDraft

/-- **A document has the property** if the keys of its lines, but for the first line, may be added
to tables with headers. -/
theorem ofEntries_of_parse (p : TableProperty) {text : String} {document : Value}
    (h : Document.parse text = .ok document)
    (hl : ∀ tokens lines, Token.scan? text.toList = some tokens →
      Line.ofTokens? tokens = some lines → ∀ line ∈ lines.tail, p.Admits line) :
    ∃ entries : Entries,
      document = .table ⟨0, 0⟩ .header entries ∧ p.OfEntries .inline entries := by
  rw [Document.parse] at h
  obtain ⟨tokens, ht, h⟩ := Except.bind_eq_ok_iff.1 h
  obtain ⟨lines, hs, h⟩ := Except.bind_eq_ok_iff.1 h
  obtain ⟨d, hd, h⟩ := Except.bind_eq_ok_iff.1 h
  obtain ⟨entries, he, h⟩ := Except.bind_eq_ok_iff.1 h
  cases h
  have admitted := hl tokens lines (eq_of_expect_eq_ok ht) (eq_of_expect_eq_ok hs)
  exact ⟨entries, rfl, (OfDraft.of_lines admitted hd).close? (eq_of_expect_eq_ok he)⟩

end TableProperty

end GradleScript.Toml
