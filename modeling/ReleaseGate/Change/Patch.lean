import ReleaseGate.Text.Lines

/-!
# Patches

A patch as data: for each file the line that opens it, header lines, and hunks with a heading and
a body. `lines` lists a patch's lines in order, and `Text.unlines` writes them out.
-/

namespace ReleaseGate.Change

/-- A hunk: its heading and its body, of lines of some type. -/
structure Hunk (Line : Type) where
  heading : Line
  body : List Line
  deriving DecidableEq, Repr

/-- The patch of one file: the line that opens it, its header lines and its hunks. -/
structure FilePatch (Line : Type) where
  opening : Line
  headers : List Line
  hunks : List (Hunk Line)
  deriving DecidableEq, Repr

variable {Line Line' : Type}

/-- The lines of a hunk. -/
def Hunk.lines (h : Hunk Line) : List Line := h.heading :: h.body

/-- The lines of a file's patch. -/
def FilePatch.lines (p : FilePatch Line) : List Line :=
  p.opening :: p.headers ++ p.hunks.flatMap Hunk.lines

/-- A hunk with every line changed by a function. -/
def Hunk.map (f : Line → Line') (h : Hunk Line) : Hunk Line' :=
  ⟨f h.heading, h.body.map f⟩

/-- A file's patch with every line changed by a function. -/
def FilePatch.map (f : Line → Line') (p : FilePatch Line) : FilePatch Line' :=
  ⟨f p.opening, p.headers.map f, p.hunks.map (Hunk.map f)⟩

/-- The lines of a patch of several files. -/
def patchLines (ps : List (FilePatch Line)) : List Line := ps.flatMap FilePatch.lines

/-- A patch written out, every line ended by a line feed. -/
def renderPatch (ps : List (FilePatch (List Char))) : List Char := Text.unlines (patchLines ps)

@[simp] theorem Hunk.lines_map (f : Line → Line') (h : Hunk Line) :
    (h.map f).lines = h.lines.map f := by
  simp [Hunk.lines, Hunk.map]

@[simp] theorem FilePatch.lines_map (f : Line → Line') (p : FilePatch Line) :
    (p.map f).lines = p.lines.map f := by
  simp [FilePatch.lines, FilePatch.map, List.flatMap_map, List.map_flatMap]

@[simp] theorem patchLines_map (f : Line → Line') (ps : List (FilePatch Line)) :
    patchLines (ps.map (FilePatch.map f)) = (patchLines ps).map f := by
  simp [patchLines, List.flatMap_map, List.map_flatMap]

end ReleaseGate.Change
