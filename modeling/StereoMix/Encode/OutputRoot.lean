import StereoMix.Encode.AgentServer
import StereoMix.Encode.Template

/-!
# The output root

A Start's folder is the root, a slash and a relative `output_dir` without `..`. The file name behind it comes from
the template, where only `BSM_AGENT_ID` can bring in a slash. So a path stays in the root exactly if the root is not
empty (the slash would then be that of the file system) and the template with the agent id in place is without `..`.
An absolute agent id at the front of the template replaces the folder: then its own folder has to be in the root.
-/

namespace StereoMix.Encode

/-! ## Joined paths -/

/-- The components of what stands after a slash. -/
def restComponents (s : String) : List Component := (s.toList.splitOn '/').filterMap (componentOf false)

theorem components_slash {x : String} (nonempty : x ≠ "") (y : String) :
    components (x ++ "/" ++ y) = components x ++ restComponents y := by
  have chars : (x ++ "/" ++ y).toList = x.toList ++ '/' :: y.toList := by simp
  obtain ⟨c, tail, some_char⟩ := List.exists_cons_of_ne_nil (fun none => nonempty (String.toList_eq_nil_iff.1 none))
  obtain ⟨first, rest, pieces⟩ := List.exists_cons_of_ne_nil (List.splitOn_ne_nil '/' x.toList)
  have front : isAbsolute (x ++ "/" ++ y) = isAbsolute x := by
    unfold isAbsolute
    rw [chars, some_char]
    rfl
  unfold components
  rw [front, chars, List.splitOn_append_cons_self, pieces]
  dsimp only [List.cons_append]
  rw [List.filterMap_append, List.append_assoc]
  rfl

theorem components_root (y : String) : components ("/" ++ y) = .rootDir :: restComponents y := by
  have chars : ("/" ++ y).toList = [] ++ '/' :: y.toList := by simp
  have front : isAbsolute ("/" ++ y) = true := by
    unfold isAbsolute
    rw [chars]
    rfl
  unfold components
  rw [front, chars, List.splitOn_append_cons_self]
  rfl

theorem components_concat_slash {x : List Char} (nonempty : x ≠ []) :
    components (String.ofList (x ++ ['/'])) = components (String.ofList x) := by
  have chars : String.ofList (x ++ ['/']) = String.ofList x ++ "/" ++ "" := by
    apply String.toList_injective
    simp
  have some_char : String.ofList x ≠ "" := by
    intro none
    exact nonempty (by simpa using congrArg String.toList none)
  rw [chars, components_slash some_char]
  exact List.append_nil _

theorem join_absolute (dir : String) {name : String} (absolute : isAbsolute name = true) : join dir name = name := by
  unfold join
  rw [if_pos absolute]

theorem components_join {dir name : String} (nonempty : dir ≠ "") (relative : isAbsolute name = false) :
    components (join dir name) = components dir ++ restComponents name := by
  unfold join
  rw [if_neg (by rw [relative]; exact Bool.false_ne_true)]
  split
  · exact components_slash nonempty name
  · rename_i ends
    rcases List.eq_nil_or_concat dir.toList with none | ⟨front, last, chars⟩
    · exact absurd (String.toList_eq_nil_iff.1 none) nonempty
    · have slash : last = '/' := by
        rw [chars] at ends
        simpa using ends
      subst slash
      have whole : dir = String.ofList (front ++ ['/']) := by
        apply String.toList_injective
        rw [chars, String.toList_ofList, List.concat_eq_append]
      by_cases empty : front = []
      · subst empty
        have root : dir = "/" := whole
        rw [root, components_root, show components "/" = [.rootDir] by decide]
        rfl
      · have parts : dir ++ name = String.ofList front ++ "/" ++ name := by
          apply String.toList_injective
          rw [whole]
          simp
        have some_char : String.ofList front ≠ "" := by
          intro none
          exact empty (by simpa using congrArg String.toList none)
        rw [parts, components_slash some_char, whole, components_concat_slash empty]

/-- The folder's components are those of the root, and then those of what follows. -/
theorem components_trimmed {root : String} (nonempty : root ≠ "") (y : String) :
    components (trimEndSlashes root ++ "/" ++ y) = components root ++ restComponents y := by
  have whole : root = String.ofList root.toList := by simp
  have some_char : root.toList ≠ [] := fun none => nonempty (String.toList_eq_nil_iff.1 none)
  unfold trimEndSlashes
  rw [whole, String.toList_ofList]
  generalize root.toList = chars at some_char
  induction chars using List.reverseRecOn with
  | nil => exact absurd rfl some_char
  | append_singleton front last ih =>
    by_cases slash : last = '/'
    · subst slash
      rw [List.rdropWhile_concat, if_pos (by decide)]
      by_cases empty : front = []
      · subst empty
        exact components_root y
      · rw [ih empty, components_concat_slash empty]
    · rw [List.rdropWhile_concat, if_neg (by simpa using slash)]
      apply components_slash
      intro none
      exact absurd (congrArg String.toList none) (by simp)

/-! ## Components after a slash -/

theorem componentOf_eq_parentDir {front : Bool} {piece : List Char} :
    componentOf front piece = some .parentDir ↔ piece = ['.', '.'] := by
  unfold componentOf
  split
  · rename_i empty
    simp [empty]
  split
  · rename_i dot
    rw [dot]
    cases front <;> simp
  split
  · rename_i dots
    simp [dots]
  · rename_i other
    simp [other]

theorem parentDir_mem_rest {s : String} :
    Component.parentDir ∈ restComponents s ↔ ['.', '.'] ∈ s.toList.splitOn '/' := by
  simp [restComponents, List.mem_filterMap, componentOf_eq_parentDir]

/-- Only the first piece of a relative path is read otherwise, and not as `..`. -/
theorem parentDir_mem_components {s : String} (relative : isAbsolute s = false) :
    Component.parentDir ∈ components s ↔ Component.parentDir ∈ restComponents s := by
  obtain ⟨first, rest, pieces⟩ := List.exists_cons_of_ne_nil (List.splitOn_ne_nil '/' s.toList)
  unfold components restComponents
  rw [relative, pieces]
  have in_front : Component.parentDir ∈ (componentOf true first).toList ↔
      componentOf false first = some Component.parentDir := by
    rw [Option.mem_toList, componentOf_eq_parentDir, componentOf_eq_parentDir]
  simp only [Bool.false_eq_true, if_false, List.mem_append, in_front, List.mem_filterMap, List.mem_cons,
    exists_eq_or_imp]

theorem rest_normal {s : String} (inside : Component.parentDir ∉ restComponents s) :
    ∃ names : List String, restComponents s = names.map .normal := by
  unfold restComponents at inside ⊢
  generalize s.toList.splitOn '/' = pieces at inside ⊢
  induction pieces with
  | nil => exact ⟨[], rfl⟩
  | cons piece pieces ih =>
    rw [List.filterMap_cons] at inside ⊢
    cases found : componentOf false piece with
    | none =>
      rw [found] at inside
      exact ih inside
    | some c =>
      rw [found] at inside
      dsimp only at inside ⊢
      rw [List.mem_cons, not_or] at inside
      obtain ⟨names, same⟩ := ih inside.2
      obtain ⟨name, rfl⟩ : ∃ name, c = .normal name := by
        unfold componentOf at found
        split at found
        · cases found
        split at found
        · cases found
        split at found
        · cases found
          exact absurd rfl inside.1
        · cases found
          exact ⟨_, rfl⟩
      exact ⟨name :: names, by rw [same]; rfl⟩

/-! ## Reading a path one character at a time -/

/-- What was read of a path: nothing, dots or a name behind the last slash, a slash at the front, or a `..` that ended
at a slash. -/
inductive PathScan where
  | first
  | dots (n : Nat)
  | word
  | rooted
  | climbed
  deriving DecidableEq

def PathScan.next : PathScan → Char → PathScan
  | .first, c => if c = '/' then .rooted else if c = '.' then .dots 1 else .word
  | .dots n, c => if c = '/' then (if n = 2 then .climbed else .dots 0) else if c = '.' then .dots (n + 1) else .word
  | .word, c => if c = '/' then .dots 0 else .word
  | .rooted, _ => .rooted
  | .climbed, _ => .climbed

/-- A name is being read, unless nothing counts any more. -/
def PathScan.named : PathScan → PathScan
  | .rooted => .rooted
  | .climbed => .climbed
  | _ => .word

/-- The path climbs. -/
def PathScan.climbs (q : PathScan) : Bool := q = .climbed ∨ q = .dots 2

/-- The state behind a slash and then a piece of a path. -/
def PathScan.ofPiece (piece : List Char) : PathScan :=
  if piece.all (· = '.') then .dots piece.length else .word

open PathScan

theorem next_named {q : PathScan} {c : Char} (inside : c ≠ '/') (other : c ≠ '.') : q.next c = q.named := by
  cases q <;> simp [PathScan.next, PathScan.named, inside, other]

theorem named_next {q : PathScan} {c : Char} (inside : c ≠ '/') : (q.next c).named = q.named := by
  by_cases dot : c = '.' <;> cases q <;> simp [PathScan.next, PathScan.named, inside, dot]

theorem next_of_named {q : PathScan} {c : Char} (inside : c ≠ '/') : q.named.next c = q.named := by
  cases q <;> simp [PathScan.next, PathScan.named, inside]

/-- A text without a slash that is not only dots is a name, whatever stands before it. -/
theorem foldl_next_name {u : List Char} (inside : '/' ∉ u) (name : ∃ c ∈ u, c ≠ '.') (q : PathScan) :
    u.foldl PathScan.next q = q.named := by
  have stays {v : List Char} (inside : '/' ∉ v) : v.foldl PathScan.next q.named = q.named := by
    induction v with
    | nil => rfl
    | cons c v ih =>
      rw [List.mem_cons, not_or] at inside
      rw [List.foldl_cons, next_of_named (Ne.symm inside.1), ih inside.2]
  induction u generalizing q with
  | nil =>
    obtain ⟨c, absent, -⟩ := name
    cases absent
  | cons c u ih =>
    rw [List.mem_cons, not_or] at inside
    rw [List.foldl_cons]
    by_cases dot : c = '.'
    · obtain ⟨d, member, other⟩ := name
      rcases List.mem_cons.1 member with rfl | member
      · exact absurd dot other
      · have same := named_next (q := q) (Ne.symm inside.1)
        rw [ih inside.2 ⟨d, member, other⟩ (q.next c) (same.symm ▸ stays), same]
    · rw [next_named (Ne.symm inside.1) dot, stays inside.2]

theorem foldl_next_climbed (u : List Char) : u.foldl PathScan.next .climbed = .climbed := by
  induction u with
  | nil => rfl
  | cons c u ih => exact ih

theorem foldl_next_rooted (u : List Char) : u.foldl PathScan.next .rooted = .rooted := by
  induction u with
  | nil => rfl
  | cons c u ih => exact ih

theorem climbs_ofPiece {piece : List Char} : (ofPiece piece).climbs = true ↔ piece = ['.', '.'] := by
  unfold PathScan.ofPiece PathScan.climbs
  split
  · rename_i dots
    rw [List.all_eq_true] at dots
    have whole : piece = List.replicate piece.length '.' :=
      List.eq_replicate_iff.2 ⟨rfl, fun c member => of_decide_eq_true (dots c member)⟩
    constructor
    · intro climbs
      rw [whole, show piece.length = 2 by simpa using climbs]
      rfl
    · rintro rfl
      rfl
  · rename_i other
    constructor
    · intro climbs
      exact absurd climbs (by simp)
    · rintro rfl
      exact absurd rfl other

theorem ofPiece_next_slash (piece : List Char) :
    (ofPiece piece).next '/' = if piece = ['.', '.'] then .climbed else .dots 0 := by
  have two : (ofPiece piece = .dots 2) ↔ piece = ['.', '.'] := by
    rw [← climbs_ofPiece]
    unfold PathScan.ofPiece
    split <;> simp [PathScan.climbs]
  simp only [← two]
  unfold PathScan.ofPiece
  split <;> simp [PathScan.next]

theorem ofPiece_next {piece : List Char} {c : Char} (inside : c ≠ '/') :
    (ofPiece piece).next c = ofPiece (piece ++ [c]) := by
  unfold PathScan.ofPiece
  by_cases dots : piece.all (· = '.') = true <;> by_cases dot : c = '.' <;>
    simp [PathScan.next, inside, dots, dot]

/-- A path climbs where a piece of it is `..`. -/
theorem climbs_foldl {piece : List Char} (inside : '/' ∉ piece) (rest : List Char) :
    (rest.foldl PathScan.next (ofPiece piece)).climbs = true ↔ ['.', '.'] ∈ (piece ++ rest).splitOn '/' := by
  induction rest generalizing piece with
  | nil =>
    rw [List.foldl_nil, List.append_nil, List.splitOn_eq_singleton inside, List.mem_singleton, climbs_ofPiece]
    exact eq_comm
  | cons c rest ih =>
    rw [List.foldl_cons]
    by_cases slash : c = '/'
    · subst slash
      rw [ofPiece_next_slash, List.splitOn_append_cons_self_of_not_mem inside, List.mem_cons]
      split
      · rename_i dots
        rw [foldl_next_climbed, dots]
        exact ⟨fun _ => .inl rfl, fun _ => rfl⟩
      · rename_i other
        have behind := @ih [] List.not_mem_nil
        rw [show ofPiece [] = .dots 0 by rfl, List.nil_append] at behind
        rw [behind, or_iff_right (Ne.symm other)]
    · have longer : '/' ∉ piece ++ [c] := by
        rw [List.mem_append, List.mem_singleton, not_or]
        exact ⟨inside, Ne.symm slash⟩
      rw [ofPiece_next slash, ih longer, List.append_assoc]
      rfl

/-- The state at the end of a path. -/
def scan (s : String) : PathScan := s.toList.foldl PathScan.next .first

theorem foldl_next_ne_rooted {q : PathScan} (begun : q ≠ .first) (relative : q ≠ .rooted) (u : List Char) :
    u.foldl PathScan.next q ≠ .rooted := by
  induction u generalizing q with
  | nil => exact relative
  | cons c u ih =>
    have goes : q.next c ≠ .first ∧ q.next c ≠ .rooted := by
      by_cases slash : c = '/' <;> by_cases dot : c = '.' <;> cases q <;> simp_all [PathScan.next]
      all_goals split <;> simp
    exact ih goes.1 goes.2

theorem scan_rooted {s : String} : scan s = .rooted ↔ isAbsolute s = true := by
  unfold scan isAbsolute
  cases s.toList with
  | nil => simp
  | cons c rest =>
    rw [List.foldl_cons]
    by_cases slash : c = '/'
    · simp [PathScan.next, slash, foldl_next_rooted]
    · have begun : PathScan.next .first c ≠ .first ∧ PathScan.next .first c ≠ .rooted := by
        simp only [PathScan.next, slash, if_false]
        split <;> exact ⟨nofun, nofun⟩
      simp [foldl_next_ne_rooted begun.1 begun.2, slash]

theorem scan_climbs {s : String} (relative : isAbsolute s = false) :
    (scan s).climbs = true ↔ Component.parentDir ∈ components s := by
  rw [parentDir_mem_components relative, parentDir_mem_rest]
  unfold scan
  unfold isAbsolute at relative
  cases chars : s.toList with
  | nil => decide
  | cons c rest =>
    have slash : c ≠ '/' := by
      rintro rfl
      rw [chars] at relative
      cases relative
    have here : PathScan.next .first c = ofPiece [c] := by
      by_cases dot : c = '.' <;> simp [PathScan.next, PathScan.ofPiece, slash, dot]
    have inside : '/' ∉ [c] := by simpa using Ne.symm slash
    rw [List.foldl_cons, here]
    exact climbs_foldl inside rest

/-! ## The texts of the tokens -/

def plainChar (c : Char) : Bool := c.isDigit || c.isUpper || c = '-' || c = '+'

/-- A text of digits, signs and capital letters: a date, a time, a number, the name of the program. -/
structure PlainText (s : String) : Prop where
  nonempty : s ≠ ""
  plain : ∀ c ∈ s.toList, plainChar c = true

theorem PlainText.append {s t : String} (front : PlainText s) (back : PlainText t) : PlainText (s ++ t) := by
  constructor
  · intro none
    exact front.nonempty (String.append_eq_empty_iff.1 none).1
  · intro c member
    rw [String.toList_append, List.mem_append] at member
    exact member.elim (front.plain c) (back.plain c)

theorem plainText_toString (n : Nat) : PlainText (toString n) := by
  have chars : (toString n).toList = Nat.toDigits 10 n := by
    rw [Nat.toString_eq_ofList_toDigits, String.toList_ofList]
  constructor
  · intro none
    exact Nat.toDigits_ne_nil (n := n) (b := 10) (by rw [← chars, none]; rfl)
  · intro c member
    have digit : c.isDigit = true := Nat.isDigit_of_mem_toDigits (by decide) (by decide) (chars ▸ member)
    simp [plainChar, digit]

theorem plainText_of_all {s : String} (nonempty : s ≠ "") (plain : s.toList.all plainChar = true) : PlainText s :=
  ⟨nonempty, List.all_eq_true.1 plain⟩

theorem plainText_twoDigits (n : Nat) : PlainText (twoDigits n) := by
  unfold twoDigits
  split
  · exact PlainText.append (plainText_of_all (by decide) (by decide)) (plainText_toString n)
  · exact plainText_toString n

theorem plainText_fourDigits (n : Nat) : PlainText (fourDigits n) := by
  have digits := plainText_toString n
  constructor
  · intro none
    exact digits.nonempty (String.append_eq_empty_iff.1 none).2
  · intro c member
    rw [fourDigits, String.toList_append, List.mem_append, String.toList_ofList] at member
    rcases member with zero | digit
    · rw [List.eq_of_mem_replicate zero]
      decide
    · exact digits.plain c digit

theorem plainText_hyphen : PlainText "-" := plainText_of_all (by decide) (by decide)

theorem plainText_date (now : LocalTime) : PlainText now.date := by
  have year : PlainText (yearText now.year) := by
    unfold yearText
    split
    · exact plainText_fourDigits _
    · refine .append ?_ (plainText_fourDigits _)
      split <;> exact plainText_of_all (by decide) (by decide)
  exact (((year.append plainText_hyphen).append (plainText_twoDigits _)).append plainText_hyphen).append
    (plainText_twoDigits _)

theorem plainText_time (now : LocalTime) : PlainText now.time :=
  ((((plainText_twoDigits _).append plainText_hyphen).append (plainText_twoDigits _)).append plainText_hyphen).append
    (plainText_twoDigits _)

/-- A plain text has none of the characters that the other tokens, the slashes and the dots are made of. -/
theorem PlainText.notMem {s : String} (plain : PlainText s) {c : Char} (other : plainChar c = false) :
    c ∉ s.toList := by
  intro member
  rw [plain.plain c member] at other
  cases other

theorem PlainText.first {s : String} (plain : PlainText s) {b : List Char} (others : b.any plainChar = false) :
    ∀ d ∈ s.toList.head?, d ∉ b := by
  intro d first inside
  have other : plainChar d = false := (Bool.not_eq_true _).mp (List.any_eq_false.1 others d inside)
  exact plain.notMem other (List.mem_of_mem_head? first)

/-- A plain text reads like any token. -/
theorem PlainText.alike {s : String} (plain : PlainText s) {token : List Char} (inside : '/' ∉ token)
    (name : ∃ c ∈ token, c ≠ '.') (q : PathScan) : s.toList.foldl PathScan.next q = token.foldl PathScan.next q := by
  obtain ⟨c, tail, chars⟩ := List.exists_cons_of_ne_nil (fun none => plain.nonempty (String.toList_eq_nil_iff.1 none))
  have member : c ∈ s.toList := chars ▸ List.mem_cons_self
  rw [foldl_next_name (plain.notMem (by decide)) ⟨c, member, _⟩, foldl_next_name inside name]
  rintro rfl
  exact plain.notMem (by decide) member

/-! ## The name of a file -/

variable {env : Environment} {c : StartCommand} {now : LocalTime} {n : Nat}

/-- The name of the file of a Start's `n`th try. -/
def fileName (env : Environment) (c : StartCommand) (now : LocalTime) (n : Nat) : String :=
  expandFilenameTemplate ⟨now.date, now.time, env.agentId⟩ c.template n ++ "." ++ (formatOf c.format).extension

/-- The name with only the agent id in place. -/
def agentName (env : Environment) (c : StartCommand) : String :=
  replace c.template "\x7bagent_id\x7d" (env.agentId.getD "local") ++ "." ++ (formatOf c.format).extension

/-- The other tokens do not matter to where a name leads. -/
theorem scan_fileName : scan (fileName env c now n) = scan (agentName env c) := by
  have untouched (name : String) {text value : String} (plain : PlainText text) (own : '\x7b' ∉ name.toList)
      (apart : ¬ name.toList <+: "agent_id\x7d".toList ∧ ¬ "agent_id\x7d".toList <+: name.toList)
      (inside : '/' ∉ '\x7b' :: name.toList) (s : List Char) (q : PathScan) :
      (replaceFrom "\x7bagent_id\x7d".toList value.toList 0
          (replaceFrom ('\x7b' :: name.toList) text.toList 0 s)).foldl PathScan.next q =
        (replaceFrom "\x7bagent_id\x7d".toList value.toList 0 s).foldl PathScan.next q := by
    apply foldl_replaceFrom_replaceFrom own (by decide) apart
    · exact fun none => plain.nonempty (String.toList_eq_nil_iff.1 none)
    · exact plain.notMem (by decide)
    · exact plain.first (by decide)
    · exact plain.alike inside ⟨'\x7b', List.mem_cons_self, by decide⟩
  unfold scan fileName agentName expandFilenameTemplate replace
  simp only [String.toList_append, String.toList_ofList, List.foldl_append]
  congr 2
  rw [foldl_replaceFrom (by decide) ((plainText_twoDigits n).alike (by decide) ⟨'n', by decide, by decide⟩),
    show "\x7bapp\x7d".toList = '\x7b' :: "app\x7d".toList by decide,
    untouched "app\x7d" (plainText_of_all (by decide) (by decide)) (by decide) (by decide) (by decide),
    show "\x7btime\x7d".toList = '\x7b' :: "time\x7d".toList by decide,
    untouched "time\x7d" (plainText_time now) (by decide) (by decide) (by decide),
    show "\x7bdate\x7d".toList = '\x7b' :: "date\x7d".toList by decide,
    untouched "date\x7d" (plainText_date now) (by decide) (by decide) (by decide)]

theorem isAbsolute_fileName : isAbsolute (fileName env c now n) = isAbsolute (agentName env c) := by
  rw [Bool.eq_iff_iff, ← scan_rooted, ← scan_rooted, scan_fileName]

theorem parentDir_fileName (relative : isAbsolute (agentName env c) = false) :
    Component.parentDir ∈ components (fileName env c now n) ↔ Component.parentDir ∈ components (agentName env c) := by
  rw [← scan_climbs relative, ← scan_climbs (isAbsolute_fileName.trans relative), scan_fileName]

/-! ## Paths in the root -/

/-- The path's components are those of the root, and then names only. -/
def InRoot (root path : String) : Prop :=
  ∃ names : List String, components path = components root ++ names.map .normal

/-- The root that the server reads. -/
def outputRoot (env : Environment) : String := env.outputRoot.getD "./recordings"

/-- The agent id that the names carry. -/
def agentId (env : Environment) : String := env.agentId.getD "local"

/-- A path up to its last slash. -/
def folderOf (path : String) : String := String.ofList (path.toList.rdropWhile (· ≠ '/'))

/-- The agent id's own folder; a number is put in last, so also into the agent id. -/
def agentFolder (env : Environment) (n : Nat) : String :=
  folderOf (replace (agentId env) "\x7bn\x7d" (twoDigits n))

/-- What follows that folder in the name of a file. -/
def behindAgent (env : Environment) (c : StartCommand) (now : LocalTime) (n : Nat) : String :=
  String.ofList ((fileName env c now n).toList.drop (agentFolder env n).toList.length)

/-- The agent id is an absolute path, and the template begins with it. -/
def AgentLeads (env : Environment) (c : StartCommand) : Prop :=
  isAbsolute (agentId env) = true ∧ "\x7bagent_id\x7d".toList <+: c.template.toList

instance : Decidable (AgentLeads env c) := inferInstanceAs (Decidable (_ ∧ _))

/-- The agent id's folder is in the root and what follows does not climb, or the root is below that folder and what
follows goes on into it. -/
def LeadsInside (env : Environment) (c : StartCommand) (now : LocalTime) (n : Nat) : Prop :=
  InRoot (outputRoot env) (agentFolder env n) ∧ Component.parentDir ∉ restComponents (behindAgent env c now n) ∨
    ∃ (deeper : List Component) (names : List String),
      components (outputRoot env) = components (agentFolder env n) ++ deeper ∧
        restComponents (behindAgent env c now n) = deeper ++ names.map .normal

/-- The root is not empty, and the agent id leads into the root or, where it does not lead, the template with the
agent id in place has no `..`. -/
def KeepsInRoot (env : Environment) (c : StartCommand) (now : LocalTime) (n : Nat) : Prop :=
  outputRoot env ≠ "" ∧
    if AgentLeads env c then LeadsInside env c now n else Component.parentDir ∉ components (agentName env c)

/-! ## An agent id that leads -/

theorem slash_notMem_template (passes : c.Passes env) : '/' ∉ c.template.toList := by
  have checked := passes.template
  unfold validTemplate at checked
  simp only [Bool.not_eq_true', Bool.or_eq_false_iff, List.contains_eq_mem, decide_eq_false_iff_not] at checked
  exact checked.1.2

/-- A template has no slash of its own, so only an agent id at its front makes a name absolute. -/
theorem isAbsolute_agentName (passes : c.Passes env) : isAbsolute (agentName env c) = true ↔ AgentLeads env c := by
  have plain := slash_notMem_template passes
  have nonempty : "\x7bagent_id\x7d".toList ≠ [] := by decide
  have chars : (agentName env c).toList =
      replaceFrom "\x7bagent_id\x7d".toList (agentId env).toList 0 c.template.toList ++
        '.' :: (formatOf c.format).extension.toList := by
    simp [agentName, replace, agentId]
  unfold AgentLeads isAbsolute
  rw [chars, decide_eq_true_iff, decide_eq_true_iff]
  by_cases leads : "\x7bagent_id\x7d".toList <+: c.template.toList
  · rw [and_iff_left leads]
    obtain ⟨rest, same⟩ := leads
    rw [← same, replaceFrom_match nonempty]
    rw [← same, List.mem_append, not_or] at plain
    cases id : (agentId env).toList with
    | nil =>
      have absent : '/' ∉ replaceFrom "\x7bagent_id\x7d".toList [] 0 rest :=
        fun member => (mem_replaceFrom member).elim plain.2 List.not_mem_nil
      refine iff_of_false (fun first => ?_) (by simp)
      rw [List.nil_append] at first
      cases front : replaceFrom "\x7bagent_id\x7d".toList [] 0 rest with
      | nil =>
        rw [front] at first
        cases first
      | cons d tail =>
        rw [front] at first absent
        cases first
        exact absent List.mem_cons_self
    | cons d tail => rfl
  · refine iff_of_false (fun first => ?_) fun both => leads both.2
    cases template : c.template.toList with
    | nil =>
      rw [template, replaceFrom_nil] at first
      cases first
    | cons d rest =>
      rw [template] at leads plain first
      rw [replaceFrom_other leads] at first
      cases first
      exact plain List.mem_cons_self

/-- What ends a path before its last slash is no part of the folder. -/
theorem folderOf_append {x y : List Char} (absent : '/' ∉ y) :
    folderOf (String.ofList (x ++ '/' :: y)) = String.ofList (x ++ ['/']) := by
  unfold folderOf
  rw [String.toList_ofList, List.append_cons, List.rdropWhile]
  rw [List.reverse_append, List.dropWhile_append_of_pos]
  · simp
  · intro d member
    have other : d ≠ '/' := fun same => absent (same ▸ List.mem_reverse.1 member)
    simpa using other

/-- A path with a slash is what stands before its last slash, that slash, and the rest. -/
theorem exists_last_slash {l : List Char} (slash : '/' ∈ l) : ∃ x y, l = x ++ '/' :: y ∧ '/' ∉ y := by
  obtain ⟨y, x, split, absent⟩ := List.eq_append_cons_of_mem (List.mem_reverse.2 slash)
  refine ⟨x.reverse, y.reverse, ?_, fun member => absent (List.mem_reverse.1 member)⟩
  rw [← List.reverse_reverse l, split]
  simp

/-- **Where the agent id leads**, a name is its folder and what follows. -/
theorem fileName_of_leads (leads : AgentLeads env c) : ∃ x, agentFolder env n = x ++ "/" ∧
    fileName env c now n = x ++ "/" ++ behindAgent env c now n := by
  have slash : '/' ∈ (agentId env).toList := List.mem_of_mem_head? (of_decide_eq_true leads.1)
  obtain ⟨x, y, id, absent⟩ := exists_last_slash slash
  obtain ⟨rest, template⟩ := leads.2
  have number : "\x7bn\x7d".toList ≠ [] := by decide
  have apart : '/' ∉ "\x7bn\x7d".toList := by decide
  have folder : agentFolder env n =
      String.ofList (replaceFrom "\x7bn\x7d".toList (twoDigits n).toList 0 x) ++ "/" := by
    unfold agentFolder replace
    rw [id, replaceFrom_append_cons number apart, folderOf_append]
    · apply String.toList_injective
      simp
    · exact fun member => (mem_replaceFrom member).elim absent ((plainText_twoDigits n).notMem (by decide))
  -- the tokens that are replaced before the agent id leave it at the front
  have kept {token : String} (text : List Char)
      (apart : ¬ token.toList <+: "agent_id\x7d".toList ∧ ¬ "agent_id\x7d".toList <+: token.toList)
      (rest : List Char) : ∃ rest', replaceFrom ('\x7b' :: token.toList) text 0 ("\x7bagent_id\x7d".toList ++ rest) =
        "\x7bagent_id\x7d".toList ++ rest' := ⟨_, replaceFrom_token apart (by decide) rest⟩
  obtain ⟨dated, date⟩ := @kept "date\x7d" now.date.toList (by decide) rest
  obtain ⟨timed, time⟩ := @kept "time\x7d" now.time.toList (by decide) dated
  obtain ⟨named, app⟩ := @kept "app\x7d" "BSM".toList (by decide) timed
  have chars : ∃ behind, (fileName env c now n).toList = (agentFolder env n).toList ++ behind := by
    refine ⟨replaceFrom "\x7bn\x7d".toList (twoDigits n).toList 0
      (y ++ replaceFrom "\x7bagent_id\x7d".toList (agentId env).toList 0 named) ++
        '.' :: (formatOf c.format).extension.toList, ?_⟩
    unfold fileName expandFilenameTemplate replace
    simp only [String.toList_append, String.toList_ofList]
    rw [← template, show "\x7bdate\x7d".toList = '\x7b' :: "date\x7d".toList by decide, date,
      show "\x7btime\x7d".toList = '\x7b' :: "time\x7d".toList by decide, time,
      show "\x7bapp\x7d".toList = '\x7b' :: "app\x7d".toList by decide, app, replaceFrom_match (by decide)]
    rw [show env.agentId.getD "local" = agentId env from rfl, id, List.append_assoc x, List.cons_append,
      replaceFrom_append_cons number apart, folder]
    simp
  obtain ⟨behind, chars⟩ := chars
  refine ⟨_, folder, ?_⟩
  rw [← folder]
  apply String.toList_injective
  rw [String.toList_append, behindAgent, String.toList_ofList, chars, List.drop_left]

/-- The components of a path behind a slash follow those of what stands up to it. -/
theorem components_behind_slash (x y : String) :
    components (x ++ "/" ++ y) = components (x ++ "/") ++ restComponents y := by
  by_cases empty : x = ""
  · rw [empty, show "" ++ "/" = "/" by decide, components_root, show components "/" = [.rootDir] by decide]
    rfl
  · have end_slash := components_slash empty ""
    rw [String.append_empty] at end_slash
    rw [components_slash empty, end_slash, show restComponents "" = [] by decide, List.append_nil]

/-- A name that an agent id leads is in the root exactly if the agent id leads inside. -/
theorem inRoot_of_leads (leads : AgentLeads env c) :
    InRoot (outputRoot env) (fileName env c now n) ↔ LeadsInside env c now n := by
  obtain ⟨x, folder, name⟩ := @fileName_of_leads env c now n leads
  unfold InRoot LeadsInside InRoot
  rw [name, components_behind_slash, ← folder]
  constructor
  · rintro ⟨names, same⟩
    rcases List.append_eq_append_iff.1 same with ⟨deeper, root, rest⟩ | ⟨more, inside, rest⟩
    · exact .inr ⟨deeper, names, root, rest⟩
    · obtain ⟨front, back, -, same_front, same_back⟩ := List.map_eq_append_iff.1 rest
      refine .inl ⟨⟨front, by rw [inside, same_front]⟩, fun climbs => ?_⟩
      rw [← same_back] at climbs
      obtain ⟨name, -, other⟩ := List.mem_map.1 climbs
      cases other
  · rintro (⟨⟨names, inside⟩, normal⟩ | ⟨deeper, names, root, rest⟩)
    · obtain ⟨more, rest⟩ := rest_normal normal
      exact ⟨names ++ more, by rw [inside, rest, List.map_append, List.append_assoc]⟩
    · exact ⟨names, by rw [root, rest, List.append_assoc]⟩

/-! ## Every name -/

theorem outputFolder_ne_empty (dir : String) : outputFolder env dir ≠ "" := by
  intro none
  exact absurd (String.append_eq_empty_iff.1 (String.append_eq_empty_iff.1 none).1).2 (by decide)

theorem rootDir_mem_components {path : String} (absolute : isAbsolute path = true) :
    Component.rootDir ∈ components path := by
  obtain ⟨first, rest, pieces⟩ := List.exists_cons_of_ne_nil (List.splitOn_ne_nil '/' path.toList)
  unfold components
  rw [pieces, absolute]
  exact List.mem_cons_self

theorem outputPath_eq : outputPath env c now n = join (outputFolder env c.outputDir) (fileName env c now n) := rfl

theorem rootDir_mem_outputPath (empty : outputRoot env = "") :
    Component.rootDir ∈ components (outputPath env c now n) := by
  by_cases absolute : isAbsolute (fileName env c now n) = true
  · rw [outputPath_eq, join_absolute _ absolute]
    exact rootDir_mem_components absolute
  · have folder : outputFolder env c.outputDir = "/" ++ c.outputDir := by
      change trimEndSlashes (outputRoot env) ++ "/" ++ c.outputDir = _
      rw [empty]
      rfl
    rw [Bool.not_eq_true] at absolute
    rw [outputPath_eq, components_join (outputFolder_ne_empty c.outputDir) absolute, folder, components_root]
    exact List.mem_append_left _ List.mem_cons_self

theorem not_inRoot_empty {path : String} (absolute : Component.rootDir ∈ components path) : ¬ InRoot "" path := by
  rintro ⟨names, same⟩
  rw [same, show components "" = [] by decide, List.nil_append] at absolute
  obtain ⟨name, -, other⟩ := List.mem_map.1 absolute
  cases other

/-- What follows a relative name's folder stays inside if it does not climb. -/
theorem inRoot_join {root dir : String} (nonempty : root ≠ "") (normal : ∃ names : List String, restComponents dir =
    names.map .normal) {name : String} (relative : isAbsolute name = false) :
    InRoot root (join (trimEndSlashes root ++ "/" ++ dir) name) ↔ Component.parentDir ∉ components name := by
  have folder : trimEndSlashes root ++ "/" ++ dir ≠ "" := by
    intro none
    exact absurd (String.append_eq_empty_iff.1 (String.append_eq_empty_iff.1 none).1).2 (by decide)
  obtain ⟨dirs, normal⟩ := normal
  unfold InRoot
  rw [components_join folder relative, components_trimmed nonempty, List.append_assoc, normal,
    parentDir_mem_components relative]
  constructor
  · rintro ⟨names, same⟩ climbs
    have behind := List.append_cancel_left same
    have inside : Component.parentDir ∈ names.map Component.normal := behind ▸ List.mem_append_right _ climbs
    obtain ⟨name, -, other⟩ := List.mem_map.1 inside
    cases other
  · intro inside
    obtain ⟨names, rest⟩ := rest_normal inside
    exact ⟨dirs ++ names, by rw [rest, List.map_append]⟩

/-- **A path is in the root exactly if the root is not empty and the agent id leads nowhere else.** -/
theorem output_in_root_iff {env : Environment} {clock : Nat → LocalTime} {files : List (List Component)}
    {created : Except String Unit} {c : StartCommand} {request : StartRequest}
    (resolved : startRequest env clock files created c = .ok request) :
    ∃ n, request.path = outputPath env c (clock n) n ∧
      (InRoot (outputRoot env) request.path ↔ KeepsInRoot env c (clock n) n) := by
  obtain ⟨passes, -, n, path⟩ := startRequest_ok resolved
  refine ⟨n, path, ?_⟩
  rw [path]
  unfold KeepsInRoot
  by_cases empty : outputRoot env = ""
  · rw [empty]
    exact iff_of_false (not_inRoot_empty (rootDir_mem_outputPath empty)) fun keeps => keeps.1 rfl
  rw [and_iff_right empty]
  split
  · rename_i leads
    rw [outputPath_eq, join_absolute _ (isAbsolute_fileName.trans ((isAbsolute_agentName passes).2 leads))]
    exact inRoot_of_leads leads
  · rename_i leads
    have relative := (Bool.not_eq_true _).mp fun absolute => leads ((isAbsolute_agentName passes).1 absolute)
    rw [← parentDir_fileName relative]
    have normal := rest_normal fun climbs => passes.inside ((parentDir_mem_components passes.relative).2 climbs)
    exact inRoot_join empty normal (isAbsolute_fileName.trans relative)

/-- A Start that names its file after the agent. -/
def agentStart : StartCommand := ⟨none, "take", some "\x7bagent_id\x7d_\x7bn\x7d", none, none⟩

/-- It is resolved in an empty folder, at a given root and agent id. -/
def resolvedAt (root : String) (agentId : Option String) : Except String StartRequest :=
  startRequest ⟨none, some root, agentId⟩ (fun _ => ⟨2026, 1, 2, 3, 4, 5⟩) [] (.ok ()) agentStart

/-- A Start without an agent id, and one that an absolute agent id leads into the root. -/
theorem output_in_root_iff_take :
    (∃ request, resolvedAt "/srv/rec/" none = .ok request ∧
      ∃ n, request.path = outputPath ⟨none, some "/srv/rec/", none⟩ agentStart ⟨2026, 1, 2, 3, 4, 5⟩ n ∧
        (InRoot "/srv/rec/" request.path ↔
          KeepsInRoot ⟨none, some "/srv/rec/", none⟩ agentStart ⟨2026, 1, 2, 3, 4, 5⟩ n)) ∧
    ∃ request, resolvedAt "/srv/rec/" (some "/srv/rec/a/b") = .ok request ∧ request.path = "/srv/rec/a/b_01.wav" ∧
      AgentLeads ⟨none, some "/srv/rec/", some "/srv/rec/a/b"⟩ agentStart ∧
      ∃ n, KeepsInRoot ⟨none, some "/srv/rec/", some "/srv/rec/a/b"⟩ agentStart ⟨2026, 1, 2, 3, 4, 5⟩ n := by
  have resolved : resolvedAt "/srv/rec/" none = .ok ⟨"/srv/rec/take/local_01.wav", "libopus", .wav⟩ := by rfl
  have led : resolvedAt "/srv/rec/" (some "/srv/rec/a/b") = .ok ⟨"/srv/rec/a/b_01.wav", "libopus", .wav⟩ := by rfl
  refine ⟨⟨_, resolved, output_in_root_iff resolved⟩, _, led, rfl, by decide, ?_⟩
  obtain ⟨n, -, keeps⟩ := output_in_root_iff led
  exact ⟨n, keeps.1 ⟨["a", "b_01.wav"], by decide⟩⟩

/-- An empty root is that of the file system, and an agent id can climb out of a root. -/
theorem output_outside_root :
    (∃ request, resolvedAt "" none = .ok request ∧ request.path = "/take/local_01.wav" ∧ ¬ InRoot "" request.path) ∧
      ∃ request, resolvedAt "/srv/rec/" (some "../../etc/x") = .ok request ∧
        request.path = "/srv/rec/take/../../etc/x_01.wav" ∧ ¬ InRoot "/srv/rec/" request.path := by
  refine ⟨⟨_, rfl, by decide, ?_⟩, _, rfl, by decide, ?_⟩
  · exact not_inRoot_empty (by decide)
  · rintro ⟨names, same⟩
    have climbs : Component.parentDir ∈ components "/srv/rec/" ++ names.map .normal := same ▸ by decide
    simp [show components "/srv/rec/" = [.rootDir, .normal "srv", .normal "rec"] by decide] at climbs

end StereoMix.Encode
