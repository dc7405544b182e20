import ReleaseGate.Proofs.DocumentWriting
import ReleaseGate.Proofs.TreeChanges

/-!
# Loading a configuration

Loading undoes writing: what a document assigns is what is loaded, with the default in every other
field (`Config.load_eq_of_writes`), and every assignment has such a document
(`Config.load_written`). The document has to keep within the limits of the reader; beyond them,
documents of the format are refused (`Config.isRefused_beyondLimits`).
-/

namespace ReleaseGate

open Toml (blanks_nil gap_nil Key Layout Given Part KeyText PairText BodyText ValueText ElementsText SimpleText)

variable {t : Files.Tree} {cwd : Files.Place} {root : String} {path : Option String}

/-- The file that is asked for, or else the one at the root, makes the configuration. -/
theorem Config.load_of_read {text : String}
    (hread : (t.view cwd).read (path.getD (Files.join root Config.fileName)) = .ok text) :
    Config.load (t.view cwd) root path =
      match Config.ofText? text.toList with
      | some config => .ok config
      | none => .error (.config (.malformed (path.getD (Files.join root Config.fileName)) text)) := by
  have loaded {file : String} (hfile : (t.view cwd).read file = .ok text) :
      Config.readFile (t.view cwd) file = match Config.ofText? text.toList with
        | some config => .ok config
        | none => .error (.config (.malformed file text)) := by
    cases hconfig : Config.ofText? text.toList <;> simp only [Config.readFile, hfile, hconfig]
  cases path with
  | some path => exact loaded hread
  | none =>
    have occupied : (t.view cwd).occupied (Files.join root Config.fileName) = true := by
      obtain ⟨place, content, hlocate, -⟩ := Files.Tree.read_eq_ok_iff.1 hread
      show (t.locate cwd _).isOk = true
      rw [Option.getD_none] at hlocate
      rw [hlocate]
      rfl
    rw [Config.load]
    simp only [occupied, if_true]
    exact loaded hread

/-- **Every assignment can be written**: what is written for it is loaded as the assignment. -/
theorem Config.load_written {a : Assignment}
    (hread : (t.view cwd).read (path.getD (Files.join root Config.fileName)) =
      .ok (String.ofList a.written)) :
    Config.load (t.view cwd) root path = .ok a.config := by
  obtain ⟨L, hwrites, hgiven⟩ := a.exists_writes_written
  rw [Config.load_of_read hread, String.toList_ofList, Assignment.ofText?_of_writes hwrites hgiven]

/-- **Loading undoes writing a configuration.** The file that is asked for, or else the one at the
root, holds a document within the limits of the reader that assigns some fields, in tables or in
arrays of the first fields of a section, beside anything else. Then the configuration that is loaded
has the assigned values, and the default in every other field. -/
theorem Config.load_eq_of_writes (t : Files.Tree) (cwd : Files.Place) (root : String)
    (path : Option String) (text : String) (L : Layout) (a : Assignment)
    (hread : (t.view cwd).read (path.getD (Files.join root Config.fileName)) = .ok text)
    (hwrites : Toml.Writes .reader text.toList L) (hgiven : a.GivenBy L) :
    Config.load (t.view cwd) root path = .ok a.config := by
  rw [Config.load_of_read hread, Assignment.ofText?_of_writes hwrites hgiven]

/-! ### A section as an array -/

/-- A document with the first paths in an array, a key of its own, and the backend in a table. -/
def firstPaths : String :=
  "paths = [\"\\u00e9\", 'b']\nother = 1\n[git]\nbackend = 'libgit2'\n"

/-- What it assigns. -/
def firstPathsAssignment : Assignment :=
  ⟨some "é", some "b", none, none, none, none, some .library⟩

/-- A bare key with a blank behind it. -/
theorem keysText_blank {k : Key} (h : isBare k = true) : Toml.KeysText [k] (k ++ [' ']) := by
  obtain ⟨hne, hk⟩ : k ≠ [] ∧ ∀ c ∈ k, Toml.isKeyChar c = true := by
    simpa [isBare] using h
  exact @Toml.KeysText.one [] k k [' '] blanks_nil (.bare hne hk) (by simp [Toml.Blanks, Toml.isBlank])

theorem firstPaths_writes :
    ∃ L, Toml.Writes .reader firstPaths.toList L ∧ firstPathsAssignment.GivenBy L := by
  have space : Toml.Blanks [' '] := by simp [Toml.Blanks, Toml.isBlank]
  -- the values
  have accent : Toml.BasicText ['é'] (Toml.backslash :: ['u', '0', '0', 'e', '9'] ++ []) :=
    .escape (.short rfl (by decide) (by decide)) .nil
  have escaped : SimpleText .reader (.text ['é']) _ := .text (.short (.basic accent))
  have literal (s : List Char)
      (h : s.all (fun c => Toml.isPlain c && c != Toml.singleQuote) = true) :
      SimpleText .reader (.text s) (Toml.singleQuote :: s ++ [Toml.singleQuote]) :=
    .text (.short (.literal fun c hc => by simpa using List.all_eq_true.1 h c hc))
  have number : SimpleText .reader .other ['1'] :=
    .integer (.decimal .none (.run (by decide) (.one (by decide)))) (by decide) (by decide)
  have elements : ElementsText (ValueText .reader 78) [textLayout "é", textLayout "b"] _ :=
    .cons gap_nil (.inl ⟨_, escaped, rfl⟩) gap_nil
      (.last (.blanks space) (.inl ⟨_, literal ['b'] (by decide), rfl⟩) gap_nil)
  -- the lines, from the last one to the first
  have backend : PairText .reader (ValueText .reader 79)
      ⟨[], "backend".toList, textLayout "libgit2"⟩ _ :=
    .mk (keysText_blank (by decide)) (by decide) space
      (.inl ⟨_, literal "libgit2".toList (by decide), rfl⟩)
  have header : Toml.HeaderText .reader (.table [] "git".toList) _ :=
    .table (keysText_of_isBare (by decide)) (by decide)
  have other : PairText .reader (ValueText .reader 79) ⟨[], "other".toList, .only .other⟩ _ :=
    .mk (keysText_blank (by decide)) (by decide) space (.inl ⟨_, number, rfl⟩)
  have paths : PairText .reader (ValueText .reader 79)
      ⟨[], "paths".toList, .array [textLayout "é", textLayout "b"]⟩ _ :=
    .mk (keysText_blank (by decide)) (by decide) space (.inr (.inl ⟨_, _, elements, rfl, rfl⟩))
  have body : BodyText .reader _ _ _ :=
    .pair blanks_nil paths (lineEnd_newline _) <| .pair blanks_nil other (lineEnd_newline _) <|
      .header blanks_nil header (lineEnd_newline _) <| .pair blanks_nil backend (lineEnd_newline _) .done
  let top := [("paths".toList, Layout.array [textLayout "é", textLayout "b"]),
    ("other".toList, Layout.only .other)]
  let history := [("backend".toList, textLayout "libgit2")]
  have hgit : Toml.tableLayout .headed top [.key "git".toList] = none := rfl
  refine ⟨(Toml.tableLayout .headed top).set (.key "git".toList)
    (Toml.tableLayout .headed history), ⟨_, _, body, _, ?_, _, .inl ⟨hgit, _, ?_, rfl⟩, rfl⟩, ?_⟩
  · have names : (top.map Prod.fst).Nodup := by decide
    exact Toml.addsAll_givenFields names
  · have names : (history.map Prod.fst).Nodup := by decide
    exact Toml.addsAll_givenFields names
  constructor
  case paths => exact @Layout.GivesSection.array _ _ _ _ [textLayout "é", textLayout "b"] 2 rfl rfl
  case schema => exact .absent rfl (by simp [firstPathsAssignment, Assignment.schemaValues])
  case history => exact @Layout.GivesSection.table _ _ _ _ .headed rfl rfl

/-- A workspace with a configuration file. -/
def configured (text : String) : Files.Tree :=
  ⟨[([Config.fileName.toList], .file (Text.Utf8.encode text))]⟩

theorem read_configured (text : String) :
    ((configured text).view []).read "./release-readiness.toml" = .ok text := by
  refine Files.Tree.read_eq_ok_iff.2
    ⟨[Config.fileName.toList], Text.Utf8.encode text, ?_, Text.Utf8.decode?_encode text⟩
  rfl

/-- The assigned paths and the backend are loaded, and all else is as usual. -/
theorem Config.load_eq_of_writes_firstPaths :
    ((configured firstPaths).view []).read "./release-readiness.toml" = .ok firstPaths ∧
      (∃ L, Toml.Writes .reader firstPaths.toList L ∧ firstPathsAssignment.GivenBy L) ∧
      Config.load ((configured firstPaths).view []) "." none =
        .ok { Config.default with
          paths := { PathSettings.default with manifest := "é", changelog := "b" }
          backend := .library } := by
  have read := read_configured firstPaths
  obtain ⟨L, hwrites, hgiven⟩ := firstPaths_writes
  exact ⟨read, ⟨L, hwrites, hgiven⟩, Config.load_eq_of_writes _ _ _ none _ L _ read hwrites hgiven⟩

/-! ### Beyond the limits -/

/-- No field is assigned. -/
def Assignment.nothing : Assignment := ⟨none, none, none, none, none, none, none⟩

/-- A text writes a document of the format that assigns no field, and yet no configuration is loaded
from it. -/
def Config.IsRefused (text : List Char) : Prop :=
  (∃ L, Toml.IsDocument text L ∧ Assignment.nothing.GivenBy L) ∧
    Config.load ((configured (String.ofList text)).view []) "." none =
      .error (.config (.malformed "./release-readiness.toml" (String.ofList text)))

/-- Without a value behind the first key, nothing is read. -/
theorem load_of_takePair {c : Char} {u : List Char} (hc : Toml.opensKey c = true)
    (h : Toml.takePair (Toml.takeValue Toml.maxDepth) (c :: u) = none) :
    Config.load ((configured (String.ofList (c :: u))).view []) "." none =
      .error (.config (.malformed "./release-readiness.toml" (String.ofList (c :: u)))) := by
  have mark : Toml.dropMark (c :: u) = c :: u := by
    unfold Toml.dropMark
    split
    next heq =>
      obtain ⟨rfl, -⟩ := List.cons.inj heq
      cases hc
    · rfl
  have blank : Toml.dropBlanks (c :: u) = c :: u := by
    refine Toml.dropWhile_of_clear (Toml.clear_cons.2 ?_)
    rw [← Bool.not_eq_true]
    intro hblank
    rcases Toml.isBlank_iff.1 hblank with rfl | rfl <;> cases hc
  have statement : ¬(c = '#' ∨ c = '\n' ∨ c = '\r') := by
    rintro (rfl | rfl | rfl) <;> cases hc
  have notHeader : ∀ r, c :: u ≠ '[' :: r := by
    intro r hr
    obtain ⟨rfl, -⟩ := List.cons.inj hr
    cases hc
  have taken : Toml.takeStatement (c :: u) = none := by
    rw [Toml.takeStatement]
    · simp only [h, Option.map_none, Option.bind_eq_bind, Option.bind_none]
    · exact notHeader
  have text : Config.ofText? (c :: u) = none := by
    rw [Config.ofText?, Toml.read?, Toml.document?, mark]
    simp only [Toml.statementsWith, blank, if_neg statement, taken, Option.bind_eq_bind,
      Option.bind_none, Option.map_none]
  have loaded := @Config.load_of_read (configured (String.ofList (c :: u))) [] "." none _
    (read_configured _)
  rw [String.toList_ofList, text] at loaded
  exact loaded

theorem takeSimple_bracket (t : List Char) : Toml.takeSimple ('[' :: t) = none := by
  have clear {p : Char → Bool} (hp : p '[' = false) : Toml.Clear p ('[' :: t) :=
    Toml.clear_cons.2 hp
  have float : Toml.takeFloat ('[' :: t) = none := by
    refine Toml.takeFloat_eq_none (clear rfl) fun ds r hr => ?_
    cases hr
  rw [Toml.takeSimple, Toml.takeQuoted_eq_none (clear rfl),
    Toml.takeMoment_eq_none (.inl (clear rfl)), float]
  rfl

/-- Arrays inside each other. -/
def nestedArray : Nat → Layout
  | 0 => .array []
  | n + 1 => .array [nestedArray n]

theorem valueText_nestedArray (limits : Toml.Limits) (n : Nat) :
    ValueText limits (n + 1) (nestedArray n)
      (List.replicate (n + 1) '[' ++ List.replicate (n + 1) ']') := by
  induction n with
  | zero => exact .inr (.inl ⟨[], _, .none gap_nil, rfl, rfl⟩)
  | succ n ih =>
    have close : List.replicate (n + 2) ']' = List.replicate (n + 1) ']' ++ [']'] :=
      List.replicate_succ'
    refine .inr (.inl ⟨[nestedArray n], _, .last gap_nil ih gap_nil, ?_, rfl⟩)
    rw [List.replicate_succ, close]
    simp

/-- Arrays that nest one deeper than the reader goes are not read. -/
theorem takeValue_nestedArray (n : Nat) (t : List Char) :
    Toml.takeValue n (List.replicate (n + 1) '[' ++ t) = none := by
  induction n with
  | zero => exact takeSimple_bracket t
  | succ n ih =>
    have front (s : List Char) : Toml.dropLines ('[' :: s) = '[' :: s :=
      Toml.dropLines_gap gap_nil (Toml.clear_cons.2 rfl)
    rw [List.replicate_succ, List.cons_append] at ih ⊢
    rw [List.replicate_succ, List.cons_append]
    simp only [Toml.takeValue, Toml.takeElements, front]
    show Option.map _ ((Toml.takeValue n ('[' :: (List.replicate n '[' ++ t))).bind _) = none
    rw [ih]
    rfl

/-- A dotted key of equal parts, as it is written. -/
def dottedKey : Nat → List Char
  | 0 => ['a']
  | n + 1 => 'a' :: '.' :: dottedKey n

theorem keysText_dottedKey (n : Nat) :
    Toml.KeysText (List.replicate n ['a'] ++ [['a']]) (dottedKey n) := by
  have part : KeyText ['a'] ['a'] := .bare (by simp) (by simp [Toml.isKeyChar])
  induction n with
  | zero => exact @Toml.KeysText.one [] _ _ [] blanks_nil part blanks_nil
  | succ n ih => exact @Toml.KeysText.cons [] _ _ [] _ _ blanks_nil part blanks_nil ih

/-- A dotted key with more parts than the reader takes is not read. -/
theorem takeKeysWith_dottedKey {fuel n : Nat} (h : fuel ≤ n) (t : List Char) :
    Toml.takeKeysWith fuel (dottedKey n ++ t) = none := by
  induction n generalizing fuel with
  | zero =>
    obtain rfl := Nat.le_zero.1 h
    rfl
  | succ n ih =>
    cases fuel with
    | zero => rfl
    | succ fuel =>
      show Option.bind (Toml.takeKeysWith fuel (dottedKey n ++ t)) _ = none
      rw [ih (Nat.le_of_succ_le_succ h)]
      rfl

/-- A dotted key makes the tables before its last part. -/
theorem exists_leads_dotted (q : Prop) (key : Key) (value : Layout) (path : List Key) :
    ∃ M, Layout.Leads .dotted (fun L L' => (q → L [] = some (.table .dotted)) ∧
      L [.key key] = none ∧ L' = L.set (.key key) value) path (.only (.table .dotted)) M := by
  induction path with
  | nil => exact ⟨_, fun _ => rfl, rfl, rfl⟩
  | cons k path ih =>
    obtain ⟨M, hM⟩ := ih
    exact ⟨_, .inl ⟨rfl, M, hM, rfl⟩⟩

/-- A document may be a single pair. -/
theorem isDocument_pair {limits : Toml.Limits} {g : Given} {w : List Char} {L : Layout}
    (hw : PairText limits (ValueText limits limits.depth) g w)
    (hL : Layout.Adds g (.only (.table .headed)) L) : Toml.IsDocument w L := by
  have body := BodyText.pair blanks_nil hw (.last blanks_nil .none rfl) .done
  rw [List.nil_append, List.append_nil, List.append_nil, List.append_nil] at body
  exact ⟨limits, [g], [], body, L, ⟨L, hL, rfl⟩, rfl⟩

/-- A document with a key that is no section's assigns no field. -/
theorem nothing_givenBy {k : Key} (hk : k ∉ ["paths".toList, "schema".toList, "git".toList])
    (M : Layout) : Assignment.nothing.GivenBy ((Layout.only (.table .headed)).set (.key k) M) := by
  have absent {name : Key} (h : name ≠ k) :
      ((Layout.only (.table .headed)).set (.key k) M) [.key name] = none := by
    rw [Layout.set, if_neg (by simpa using h)]
    rfl
  simp only [List.mem_cons, List.not_mem_nil, or_false, not_or] at hk
  constructor
  case paths =>
    exact .absent (absent (Ne.symm hk.1)) (by simp [Assignment.nothing, Assignment.pathValues])
  case schema =>
    exact .absent (absent (Ne.symm hk.2.1)) (by simp [Assignment.nothing, Assignment.schemaValues])
  case history =>
    exact .absent (absent (Ne.symm hk.2.2)) (by simp [Assignment.nothing, Assignment.historyValues])

/-- Arrays that nest deeper than the limit are refused. -/
theorem isRefused_nestedArrays {n : Nat} (h : Toml.maxDepth ≤ n) :
    Config.IsRefused
      ("x=".toList ++ (List.replicate (n + 1) '[' ++ List.replicate (n + 1) ']')) := by
  have x : Toml.KeysText [['x']] ['x'] := keysText_of_isBare (by decide)
  constructor
  case left =>
    have pair : PairText ⟨n + 1, 1, true⟩ (ValueText ⟨n + 1, 1, true⟩ (n + 1))
        ⟨[], ['x'], nestedArray n⟩ _ :=
      .mk x (by simp) blanks_nil (valueText_nestedArray _ n)
    have other : ['x'] ∉ ["paths".toList, "schema".toList, "git".toList] := by decide
    exact ⟨_, isDocument_pair pair ⟨nofun, rfl, rfl⟩, nothing_givenBy other _⟩
  case right =>
    obtain ⟨k, rfl⟩ := Nat.exists_eq_add_of_le h
    generalize List.replicate (Toml.maxDepth + k + 1) ']' = close
    have front : List.replicate (Toml.maxDepth + k + 1) '[' ++ close =
        List.replicate (Toml.maxDepth + 1) '[' ++ (List.replicate k '[' ++ close) := by
      rw [← List.append_assoc, ← List.replicate_add, Nat.add_right_comm]
    rw [front]
    generalize List.replicate k '[' ++ close = rest
    have keys : Toml.takeKeys ('x' :: '=' :: (List.replicate (Toml.maxDepth + 1) '[' ++ rest)) =
        some ([['x']], '=' :: (List.replicate (Toml.maxDepth + 1) '[' ++ rest)) :=
      @Toml.takeKeys_append _ ['x'] _ x (by decide) (by simp)
    have value : Toml.takeValue Toml.maxDepth
        (Toml.dropBlanks (List.replicate (Toml.maxDepth + 1) '[' ++ rest)) = none :=
      takeValue_nestedArray Toml.maxDepth rest
    refine load_of_takePair rfl ?_
    show Toml.takePair _ ('x' :: '=' :: (List.replicate (Toml.maxDepth + 1) '[' ++ rest)) = none
    simp only [Toml.takePair, keys, Option.bind_eq_bind, Option.bind_some, Toml.takeChar, if_true,
      value, Option.bind_none]

/-- Dotted keys with more parts than the limit are refused. -/
theorem isRefused_dottedKey {n : Nat} (h : Toml.maxParts ≤ n + 1) :
    Config.IsRefused (dottedKey n ++ "=1".toList) := by
  have parts : Toml.maxParts = 80 := rfl
  obtain ⟨n, rfl⟩ := Nat.exists_eq_add_of_le' (show 1 ≤ n by omega)
  constructor
  case left =>
    have number : SimpleText ⟨0, n + 2, true⟩ .other ['1'] :=
      .integer (.decimal .none (.run (by decide) (.one (by decide)))) (by decide) (by decide)
    have pair : PairText ⟨0, n + 2, true⟩ (ValueText ⟨0, n + 2, true⟩ 0)
        ⟨List.replicate (n + 1) ['a'], ['a'], .only .other⟩ _ :=
      .mk (keysText_dottedKey (n + 1)) (by simp) blanks_nil ⟨_, number, rfl⟩
    obtain ⟨M, hM⟩ := exists_leads_dotted (List.replicate (n + 1) ['a'] ≠ []) ['a'] (.only .other)
      (List.replicate n ['a'])
    have text : dottedKey (n + 1) ++ ['='] ++ ['1'] = dottedKey (n + 1) ++ "=1".toList := by simp
    have other : ['a'] ∉ ["paths".toList, "schema".toList, "git".toList] := by decide
    have adds : Layout.Adds ⟨List.replicate (n + 1) ['a'], ['a'], .only .other⟩
        (.only (.table .headed)) ((Layout.only (.table .headed)).set (.key ['a']) M) :=
      .inl ⟨rfl, M, hM, rfl⟩
    exact ⟨_, isDocument_pair (text ▸ pair) adds, nothing_givenBy other M⟩
  case right =>
    have keys : Toml.takeKeys (dottedKey (n + 1) ++ ['=', '1']) = none :=
      takeKeysWith_dottedKey (by omega) _
    refine @load_of_takePair 'a' ('.' :: dottedKey n ++ ['=', '1']) rfl ?_
    show Toml.takePair _ (dottedKey (n + 1) ++ ['=', '1']) = none
    simp only [Toml.takePair, keys, Option.bind_eq_bind, Option.bind_none]

/-- A float that is too large for a double is refused. -/
theorem isRefused_largeFloat : Config.IsRefused "x=1e400".toList := by
  constructor
  case left =>
    have x : Toml.KeysText [['x']] ['x'] := keysText_of_isBare (by decide)
    have one : Toml.WholeText ['1'] ['1'] := .run (by decide) (.one (by decide))
    have digits : Toml.RunText Toml.isDigit ['4', '0', '0'] ['4', '0', '0'] :=
      .cons (by decide) (.cons (by decide) (.one (by decide)))
    have large : SimpleText ⟨0, 1, false⟩ .other _ :=
      .float (.digits .none one .none
        (.some (.inl rfl) .none digits) (.inr (by simp)) nofun)
    have pair : PairText ⟨0, 1, false⟩ (ValueText ⟨0, 1, false⟩ 0) ⟨[], ['x'], .only .other⟩ _ :=
      .mk x (by decide) blanks_nil ⟨_, large, rfl⟩
    exact ⟨_, isDocument_pair pair ⟨nofun, rfl, rfl⟩, nothing_givenBy (by decide) _⟩
  case right => decide +kernel

/-- **Beyond the limits, documents of the format are refused**: eighty arrays inside each other, a
key of eighty parts, and a float that is too large for a double. -/
theorem Config.isRefused_beyondLimits :
    Config.IsRefused ("x=".toList ++ (List.replicate 80 '[' ++ List.replicate 80 ']')) ∧
      Config.IsRefused (dottedKey 79 ++ "=1".toList) ∧ Config.IsRefused "x=1e400".toList :=
  ⟨isRefused_nestedArrays (Nat.le_refl 79), isRefused_dottedKey (Nat.le_refl 80),
    isRefused_largeFloat⟩

end ReleaseGate
