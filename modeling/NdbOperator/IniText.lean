import NdbOperator.Cluster

set_option autoImplicit false

/-!
# Config text and its reading

Both configs that the operator writes, the NDB `config.ini` and the MySQL Server `my.cnf`, are
texts of lines. `render` writes a list of lines, `scanLines` splits a text as `bufio.ScanLines`
does, and `parseString` walks the lines into sections. `configparser.ParseString` is not under
src/; `parseString` reads lines as the spec describes the format: `[x]` opens
section `x`, `k=v` (split at the first `=`) belongs to the open section, `#` lines are comments,
and a key-value line before any section is the error whose text the validator looks for.
-/

namespace NdbOperator

/-- `bufio.ScanLines`: the text before each newline, then the rest when it is not empty. -/
def scanLines : List Char → List (List Char)
  | [] => []
  | c :: cs =>
    if c = '\n' then [] :: scanLines cs
    else match scanLines cs with
      | [] => [[c]]
      | l :: ls => (c :: l) :: ls

def breakLines : List Char → List (List Char)
  | [] => [[]]
  | c :: cs =>
    if c = '\n' then [] :: breakLines cs
    else match breakLines cs with
      | [] => [[c]]
      | l :: ls => (c :: l) :: ls

def render (lines : List String) : String :=
  ⟨(lines.map fun l => l.toList ++ ['\n']).flatten⟩

theorem breakLines_ne_nil (l : List Char) : breakLines l ≠ [] := by
  induction l with
  | nil => simp [breakLines]
  | cons c cs ih =>
    simp only [breakLines]
    split
    · simp
    · split <;> simp

theorem breakLines_of_not_mem {l : List Char} (h : '\n' ∉ l) : breakLines l = [l] := by
  induction l with
  | nil => rfl
  | cons c cs ih =>
    have hc : c ≠ '\n' := fun e => h (e ▸ List.mem_cons_self c cs)
    simp only [breakLines, hc, if_false, ih (fun m => h (List.mem_cons_of_mem c m))]

theorem scanLines_append_newline (l rest : List Char) :
    scanLines (l ++ '\n' :: rest) = breakLines l ++ scanLines rest := by
  induction l with
  | nil => simp [scanLines, breakLines]
  | cons c cs ih =>
    rw [List.cons_append]
    by_cases hc : c = '\n'
    · simp [scanLines, breakLines, hc, ih]
    · obtain ⟨p, ps, hp⟩ := List.exists_cons_of_ne_nil (breakLines_ne_nil cs)
      simp [scanLines, breakLines, hc, ih, hp]

theorem scanLines_render (ls : List String) :
    scanLines (render ls).toList = ls.flatMap fun l => breakLines l.toList := by
  induction ls with
  | nil => rfl
  | cons l ls ih =>
    have hr : (render (l :: ls)).toList = l.toList ++ '\n' :: (render ls).toList := by
      simp [render]
    rw [hr, scanLines_append_newline, ih, List.flatMap_cons]

theorem scanLines_render_of_lines {ls : List String} (h : ∀ l ∈ ls, '\n' ∉ l.toList) :
    scanLines (render ls).toList = ls.map String.toList := by
  rw [scanLines_render]
  induction ls with
  | nil => rfl
  | cons l ls ih =>
    rw [List.flatMap_cons, breakLines_of_not_mem (h l (List.mem_cons_self l ls)),
      ih (fun m hm => h m (List.mem_cons_of_mem l hm))]
    rfl

@[simp] theorem render_append (ls ls' : List String) :
    render (ls ++ ls') = ⟨(render ls).toList ++ (render ls').toList⟩ := by
  simp [render]

inductive IniLine
  | blank
  | comment
  | header (name : String)
  | entry (key value : String)
deriving DecidableEq, Repr

def classifyLine (l : List Char) : IniLine :=
  if l.all Char.isWhitespace then .blank
  else if l.head? = some '#' then .comment
  else if l.head? = some '[' ∧ l.getLast? = some ']' then .header ⟨(l.drop 1).dropLast⟩
  else .entry ⟨l.takeWhile (· ≠ '=')⟩ ⟨(l.dropWhile (· ≠ '=')).drop 1⟩

/-- Sections in file order; Go's `map[string][]Section` groups the same data by name. -/
abbrev ConfigIni := List (String × List (String × String))

def sectionsOf : List (List Char) → List (String × String) × ConfigIni
  | [] => ([], [])
  | l :: ls =>
    match classifyLine l with
    | .blank | .comment => sectionsOf ls
    | .header name => ([], (name, (sectionsOf ls).1) :: (sectionsOf ls).2)
    | .entry k v => ((k, v) :: (sectionsOf ls).1, (sectionsOf ls).2)

inductive ParseError
  | nonEmptyLineWithoutSection
deriving DecidableEq, Repr

instance exceptDecidableEq {ε α : Type} [DecidableEq ε] [DecidableEq α] :
    DecidableEq (Except ε α)
  | .error e, .error e' =>
    if h : e = e' then isTrue (h ▸ rfl) else isFalse fun h' => h (by cases h'; rfl)
  | .ok x, .ok y => if h : x = y then isTrue (h ▸ rfl) else isFalse fun h' => h (by cases h'; rfl)
  | .error _, .ok _ => isFalse nofun
  | .ok _, .error _ => isFalse nofun

/-- The text of the error, which `HasValidSpec` searches for. -/
def ParseError.error : ParseError → String
  | .nonEmptyLineWithoutSection => "Non-empty line without section"

/-- Modelled from the spec: `configparser.ParseString`, the section-and-key walk. -/
def parseString (s : String) : Except ParseError ConfigIni :=
  match sectionsOf (scanLines s.toList) with
  | ([], secs) => .ok secs
  | (_ :: _, _) => .error .nonEmptyLineWithoutSection

def ConfigIni.numberOfNames (c : ConfigIni) : Nat := (c.map Prod.fst).eraseDups.length

def ConfigIni.getNumberOfSections (c : ConfigIni) (name : String) : Nat :=
  (c.filter fun s => s.1 = name).length

theorem sectionsOf_cons_skip {l : List Char} (ls : List (List Char))
    (h : classifyLine l = .blank ∨ classifyLine l = .comment) : sectionsOf (l :: ls) = sectionsOf ls := by
  rcases h with h | h <;> simp [sectionsOf, h]

theorem sectionsOf_cons_header {l : List Char} {name : String} (ls : List (List Char))
    (h : classifyLine l = .header name) :
    sectionsOf (l :: ls) = ([], (name, (sectionsOf ls).1) :: (sectionsOf ls).2) := by
  simp [sectionsOf, h]

theorem sectionsOf_cons_entry {l : List Char} {k v : String} (ls : List (List Char))
    (h : classifyLine l = .entry k v) :
    sectionsOf (l :: ls) = ((k, v) :: (sectionsOf ls).1, (sectionsOf ls).2) := by
  simp [sectionsOf, h]

theorem sectionsOf_append {ls rest : List (List Char)} (h : (sectionsOf rest).1 = []) :
    sectionsOf (ls ++ rest) = ((sectionsOf ls).1, (sectionsOf ls).2 ++ (sectionsOf rest).2) := by
  induction ls with
  | nil => simp [sectionsOf, Prod.ext_iff, h]
  | cons l ls ih =>
    simp only [List.cons_append, sectionsOf]
    split <;> simp [ih]

end NdbOperator
