import Mathlib.Tactic.SplitIfs
import ReleaseGate.Proofs.StrictDecoding
import ReleaseGate.Files.Tree

/-!
# Changed file trees

Two ways in which a file tree changes while the paths that led somewhere still lead there: the
contents of files are rewritten where they are (`Tree.rewrite`), and something is put where nothing
was (`Tree.Grows`). For both it is said what a path leads to afterwards, and from that what is read.
Where one file gets another text (`Tree.EditsFile`), every other file is read as before.
-/

namespace ReleaseGate.Files

open Text (Bytes)

/-- A node with the content of a file rewritten. -/
def Node.mapContent (g : Bytes → Bytes) : Node → Node
  | .file content => .file (g content)
  | .directory => .directory

namespace Tree

/-! ### Rewritten contents -/

/-- The tree with the contents of its files rewritten, each by its place. -/
def rewrite (g : Place → Bytes → Bytes) (t : Tree) : Tree :=
  ⟨t.entries.map fun e => (e.1, e.2.mapContent (g e.1))⟩

variable (g : Place → Bytes → Bytes) (t : Tree) (cwd : Place) (path : String)

theorem node?_rewrite (p : Place) :
    (t.rewrite g).node? p = (t.node? p).map (Node.mapContent (g p)) := by
  have lookup (es : List (Place × Node)) :
      (es.map fun e => (e.1, e.2.mapContent (g e.1))).lookup p =
        (es.lookup p).map (Node.mapContent (g p)) := by
    induction es with
    | nil => rfl
    | cons e es ih =>
      obtain ⟨q, n⟩ := e
      by_cases h : p = q
      · subst h
        simp
      · have h' : (p == q) = false := by simpa using h
        simp only [List.map_cons, List.lookup_cons, h', ih]
  unfold node?
  split
  · rfl
  · exact lookup t.entries

theorem walk_rewrite (place : Place) (names : List Name) :
    (t.rewrite g).walk place names = t.walk place names := by
  induction names generalizing place with
  | nil => simp only [walk]
  | cons name rest ih =>
    simp only [walk, node?_rewrite, ih]
    cases t.node? place with
    | none => rfl
    | some n =>
      cases n with
      | file => rfl
      | directory =>
        simp only [Option.map_some, Node.mapContent]
        cases t.node? (place ++ [name]) <;> rfl

/-- Paths lead where they led. -/
theorem locate_rewrite :
    (t.rewrite g).locate cwd path =
      (t.locate cwd path).map fun found => (found.1, found.2.mapContent (g found.1)) := by
  simp only [locate, walk_rewrite, node?_rewrite]
  split
  · rfl
  split
  · rfl
  split
  · rfl
  cases t.walk (if isAbsolute path then [] else cwd) (components path.toList) with
  | error cause => rfl
  | ok place =>
    cases hn : t.node? place with
    | none => simp only [hn]; rfl
    | some n =>
      cases n with
      | directory => simp only [hn]; rfl
      | file content =>
        simp only [hn, Option.map_some, Node.mapContent]
        split <;> rfl

theorem isFile_rewrite : ((t.rewrite g).view cwd).isFile path = (t.view cwd).isFile path := by
  simp only [view, locate_rewrite]
  cases t.locate cwd path with
  | error cause => rfl
  | ok found =>
    obtain ⟨place, n⟩ := found
    cases n <;> rfl

/-- What is read is rewritten as the content is. -/
theorem read_rewrite {h : List Char → List Char}
    (hg : ∀ place content, t.locate cwd path = .ok (place, .file content) →
      Text.Utf8.decode? (g place content) = (Text.Utf8.decode? content).map h) :
    ((t.rewrite g).view cwd).read path =
      ((t.view cwd).read path).map fun text => String.ofList (h text.toList) := by
  simp only [view, readText, locate_rewrite]
  cases hl : t.locate cwd path with
  | error cause => rfl
  | ok found =>
    obtain ⟨place, n⟩ := found
    cases n with
    | directory => rfl
    | file content =>
      simp only [Except.map, Node.mapContent, hg place content hl]
      cases Text.Utf8.decode? content <;> simp

/-- A text is read where there is a file with it. -/
theorem read_eq_ok_iff {t : Tree} {cwd : Place} {path text : String} :
    (t.view cwd).read path = .ok text ↔
      ∃ place content, t.locate cwd path = .ok (place, .file content) ∧
        Text.Utf8.decode? content = some text.toList := by
  simp only [view, readText]
  cases t.locate cwd path with
  | error cause => simp
  | ok found =>
    obtain ⟨place, n⟩ := found
    cases n with
    | directory => simp
    | file content =>
      cases hd : Text.Utf8.decode? content with
      | none => simp [hd]
      | some s =>
        have e : String.ofList s = text ↔ s = text.toList := by
          rw [← String.toList_inj, String.toList_ofList]
        simp [hd, e]

/-! ### Growth -/

/-- What stood somewhere still stands there. -/
def Grows (t t' : Tree) : Prop := ∀ p n, t.node? p = some n → t'.node? p = some n

variable {t cwd path} {t' : Tree}

theorem Grows.walk (h : Grows t t') {place found : Place} {names : List Name}
    (hw : t.walk place names = .ok found) : t'.walk place names = .ok found := by
  induction names generalizing place with
  | nil => simpa only [Tree.walk] using hw
  | cons name rest ih =>
    rw [Tree.walk] at hw ⊢
    cases hn : t.node? place with
    | none =>
      rw [hn] at hw
      cases hw
    | some n =>
      rw [hn] at hw
      rw [h place n hn]
      cases n with
      | file => cases hw
      | directory =>
        dsimp only at hw ⊢
        split_ifs at hw ⊢ with h₁ h₂ h₃
        · exact ih hw
        · exact ih hw
        · cases hm : t.node? (place ++ [name]) with
          | none =>
            rw [hm] at hw
            cases hw
          | some m =>
            rw [hm] at hw
            rw [h _ m hm]
            exact ih hw

/-- Paths that led somewhere still lead there. -/
theorem Grows.locate (h : Grows t t') {found : Place × Node} (hl : t.locate cwd path = .ok found) :
    t'.locate cwd path = .ok found := by
  simp only [Tree.locate] at hl ⊢
  generalize (if isAbsolute path = true then [] else cwd) = start at hl ⊢
  split at hl
  · cases hl
  next h₁ =>
  split at hl
  · cases hl
  next h₂ =>
  split at hl
  · cases hl
  next h₃ =>
  rw [if_neg h₁, if_neg h₂, if_neg h₃]
  cases hw : t.walk start (components path.toList) with
  | error cause =>
    rw [hw] at hl
    cases hl
  | ok place =>
    rw [hw] at hl
    rw [h.walk hw]
    cases hn : t.node? place with
    | none =>
      simp only [hn] at hl
      cases hl
    | some n =>
      simp only [hn] at hl
      simp only [h place n hn]
      exact hl

theorem Grows.read (h : Grows t t') {text : String} (hr : (t.view cwd).read path = .ok text) :
    (t'.view cwd).read path = .ok text := by
  simp only [view, readText] at hr ⊢
  cases hl : t.locate cwd path with
  | error cause =>
    rw [hl] at hr
    cases hr
  | ok found => rw [h.locate hl, ← hl, hr]

theorem Grows.isFile (h : Grows t t') (hf : (t.view cwd).isFile path = true) :
    (t'.view cwd).isFile path = true := by
  simp only [view] at hf ⊢
  cases hl : t.locate cwd path with
  | error cause =>
    rw [hl] at hf
    cases hf
  | ok found => rw [h.locate hl, ← hl, hf]

theorem node?_put_of_ne {p q : Place} (h : q ≠ p) (n : Node) :
    (t.put p n).node? q = t.node? q := by
  have hqp : (q == p) = false := by simpa using h
  have lookup (es : List (Place × Node)) :
      (es.filter fun e => e.1 ≠ p).lookup q = es.lookup q := by
    induction es with
    | nil => rfl
    | cons e es ih =>
      obtain ⟨r, m⟩ := e
      by_cases hr : r = p
      · subst hr
        rw [List.filter_cons_of_neg (by simp), List.lookup_cons, hqp, ih]
      · rw [List.filter_cons_of_pos (by simpa using hr), List.lookup_cons, List.lookup_cons, ih]
  unfold node?
  split
  · rfl
  · rw [put, List.lookup_cons, hqp]
    exact lookup t.entries

/-- Something may be put where nothing was. -/
theorem Grows.put {p : Place} (h : t.node? p = none) (n : Node) : t.Grows (t.put p n) := by
  intro q m hq
  have hne : q ≠ p := by
    rintro rfl
    cases h.symm.trans hq
  rw [node?_put_of_ne hne, hq]

/-! ### New files -/

/-- There is an empty file at a path now; what stood anywhere before still stands there. -/
def Creates (t t' : Tree) (cwd : Place) (path : String) : Prop :=
  t.Grows t' ∧ ∃ place, t'.locate cwd path = .ok (place, .file [])

/-- An empty file that is put where nothing was is created, if the path leads to it. -/
theorem creates_put {place : Place} (h : t.node? place = none)
    (hl : (t.put place (.file [])).locate cwd path = .ok (place, .file [])) :
    t.Creates (t.put place (.file [])) cwd path :=
  ⟨.put h _, place, hl⟩

theorem Creates.read (h : Creates t t' cwd path) : (t'.view cwd).read path = .ok "" := by
  obtain ⟨-, place, hl⟩ := h
  exact read_eq_ok_iff.2 ⟨place, [], hl, rfl⟩

theorem Creates.isFile (h : Creates t t' cwd path) : (t'.view cwd).isFile path = true := by
  obtain ⟨-, place, hl⟩ := h
  simp only [view, hl]

/-! ### New lines -/

/-- The tree with a line put before the content of the file at a path, if there is one. -/
def insertLine? (t : Tree) (cwd : Place) (path line : String) : Option Tree :=
  match t.locate cwd path with
  | .ok (place, .file _) =>
    some (t.rewrite fun p content =>
      if p = place then Text.Utf8.encode (line ++ "\n") ++ content else content)
  | _ => none

variable {line text : String}

theorem exists_insertLine? (hr : (t.view cwd).read path = .ok text) (line : String) :
    ∃ t', t.insertLine? cwd path line = some t' := by
  obtain ⟨place, content, hl, -⟩ := read_eq_ok_iff.1 hr
  exact ⟨_, by rw [insertLine?, hl]⟩

/-- Where a line was inserted. -/
theorem insertLine?_eq_some_iff :
    t.insertLine? cwd path line = some t' ↔
      ∃ place content, t.locate cwd path = .ok (place, .file content) ∧
        t.rewrite (fun p content =>
          if p = place then Text.Utf8.encode (line ++ "\n") ++ content else content) = t' := by
  unfold insertLine?
  split
  · next place content hl => simp [hl]
  · next hne =>
    refine ⟨nofun, ?_⟩
    rintro ⟨place, content, hl, -⟩
    exact absurd hl (hne place content)

/-- A file with the line before its content is read as the line and its text. -/
theorem decode?_insertion (line : String) (content : Bytes) :
    Text.Utf8.decode? (Text.Utf8.encode (line ++ "\n") ++ content) =
      (Text.Utf8.decode? content).map ((line ++ "\n").toList ++ ·) :=
  Text.Utf8.decode?_encode_append _ content

theorem read_insertLine? (h : t.insertLine? cwd path line = some t')
    (hr : (t.view cwd).read path = .ok text) :
    (t'.view cwd).read path = .ok (line ++ "\n" ++ text) := by
  obtain ⟨place, content, hl, rfl⟩ := insertLine?_eq_some_iff.1 h
  have hg : ∀ p bs, t.locate cwd path = .ok (p, .file bs) →
      Text.Utf8.decode? (if p = place then Text.Utf8.encode (line ++ "\n") ++ bs else bs) =
        (Text.Utf8.decode? bs).map ((line ++ "\n").toList ++ ·) := by
    intro p bs hl'
    cases hl.symm.trans hl'
    rw [if_pos rfl, decode?_insertion]
  rw [read_rewrite _ t cwd path hg, hr]
  exact congrArg Except.ok (String.toList_injective (by simp))

/-- Every other file is read as before, unless it is the same file. -/
theorem read_insertLine?_or (h : t.insertLine? cwd path line = some t') {other : String}
    (hr : (t.view cwd).read other = .ok text) :
    (t'.view cwd).read other = .ok text ∨ (t'.view cwd).read other = .ok (line ++ "\n" ++ text) := by
  obtain ⟨place, content, hl, rfl⟩ := insertLine?_eq_some_iff.1 h
  obtain ⟨q, bs, hq, hd⟩ := read_eq_ok_iff.1 hr
  have hlocate := locate_rewrite (fun p content =>
    if p = place then Text.Utf8.encode (line ++ "\n") ++ content else content) t cwd other
  rw [hq] at hlocate
  by_cases hp : q = place
  · right
    refine read_eq_ok_iff.2 ⟨q, _, hlocate, ?_⟩
    simp only [if_pos hp, decode?_insertion, hd, Option.map_some, String.toList_append]
  · left
    refine read_eq_ok_iff.2 ⟨q, _, hlocate, ?_⟩
    simp only [if_neg hp, hd]

theorem isFile_insertLine? (h : t.insertLine? cwd path line = some t') (other : String) :
    (t'.view cwd).isFile other = (t.view cwd).isFile other := by
  obtain ⟨place, content, hl, rfl⟩ := insertLine?_eq_some_iff.1 h
  exact isFile_rewrite _ t cwd other

/-! ### Edited files -/

/-- Both paths lead to one file. -/
def SameFile (t : Tree) (cwd : Place) (path path' : String) : Prop :=
  ∃ place content content', t.locate cwd path = .ok (place, .file content) ∧
    t.locate cwd path' = .ok (place, .file content')

/-- The file at a path has another text now, as `R` relates the two; nothing else is changed. -/
def EditsFile (R : List Char → List Char → Prop) (t t' : Tree) (cwd : Place) (path : String) :
    Prop :=
  ∃ place content content' s s', t.locate cwd path = .ok (place, .file content) ∧
    Text.Utf8.decode? content = some s ∧ Text.Utf8.decode? content' = some s' ∧ R s s' ∧
    t' = t.rewrite fun p old => if p = place then content' else old

theorem locate_rewrite_eq_ok_iff {g : Place → Bytes → Bytes} {place : Place} {content : Bytes} :
    (t.rewrite g).locate cwd path = .ok (place, .file content) ↔
      ∃ old, t.locate cwd path = .ok (place, .file old) ∧ g place old = content := by
  rw [locate_rewrite]
  rcases t.locate cwd path with cause | ⟨p, old | _⟩
  · simp [Except.map]
  · simp only [Except.map, Node.mapContent, Except.ok.injEq, Prod.mk.injEq, Node.file.injEq]
    constructor
    · rintro ⟨rfl, rfl⟩
      exact ⟨old, ⟨rfl, rfl⟩, rfl⟩
    · rintro ⟨_, ⟨rfl, rfl⟩, rfl⟩
      exact ⟨rfl, rfl⟩
  · simp [Except.map, Node.mapContent]

theorem sameFile_rewrite {g : Place → Bytes → Bytes} {path' : String} :
    (t.rewrite g).SameFile cwd path path' ↔ t.SameFile cwd path path' := by
  simp only [SameFile, locate_rewrite_eq_ok_iff]
  constructor
  · rintro ⟨place, -, -, ⟨content, hl, -⟩, ⟨content', hl', -⟩⟩
    exact ⟨place, content, content', hl, hl'⟩
  · rintro ⟨place, content, content', hl, hl'⟩
    exact ⟨place, _, _, ⟨content, hl, rfl⟩, ⟨content', hl', rfl⟩⟩

namespace EditsFile

variable {R : List Char → List Char → Prop} {other : String}

/-- Paths lead where they led. -/
theorem sameFile_iff (h : EditsFile R t t' cwd path) {p p' : String} :
    t'.SameFile cwd p p' ↔ t.SameFile cwd p p' := by
  obtain ⟨place, content, content', s, s', -, -, -, -, rfl⟩ := h
  exact sameFile_rewrite

theorem isFile (h : EditsFile R t t' cwd path) (other : String) :
    (t'.view cwd).isFile other = (t.view cwd).isFile other := by
  obtain ⟨place, content, content', s, s', -, -, -, -, rfl⟩ := h
  exact isFile_rewrite _ t cwd other

theorem read (h : EditsFile R t t' cwd path) :
    ∃ s s', (t.view cwd).read path = .ok (String.ofList s) ∧
      (t'.view cwd).read path = .ok (String.ofList s') ∧ R s s' := by
  obtain ⟨place, content, content', s, s', hl, hd, hd', hR, rfl⟩ := h
  refine ⟨s, s', read_eq_ok_iff.2 ⟨place, content, hl, by simpa using hd⟩,
    read_eq_ok_iff.2 ⟨place, content', ?_, by simpa using hd'⟩, hR⟩
  exact locate_rewrite_eq_ok_iff.2 ⟨content, hl, if_pos rfl⟩

/-- Every other file is read as before. -/
theorem read_other (h : EditsFile R t t' cwd path) (ne : ¬t.SameFile cwd path other) :
    (t'.view cwd).read other = (t.view cwd).read other := by
  obtain ⟨place, content, content', s, s', hl, -, -, -, rfl⟩ := h
  have hg : ∀ p old, t.locate cwd other = .ok (p, .file old) →
      Text.Utf8.decode? (if p = place then content' else old) =
        (Text.Utf8.decode? old).map id := by
    intro p old hl'
    have hp : p ≠ place := by
      rintro rfl
      exact ne ⟨p, content, old, hl, hl'⟩
    rw [if_neg hp, Option.map_id, id]
  rw [read_rewrite _ t cwd other hg]
  cases (t.view cwd).read other <;> simp [Except.map]

end EditsFile

end Tree

end ReleaseGate.Files
