import StereoMix.Encode.Muxer
import Mathlib.Data.List.DropRight

/-!
# Output paths

`expand_filename_template` and `resolve_output_path`, with Unix paths as `std::path` reads them. A file is known by
the components of its path: `a//b` and `a/./b` are one file, while `..` is kept as it stands, so that `b` and
`a/../b` count as two. Symbolic and hard links are left out.
-/

namespace StereoMix.Encode

/-! ## Paths -/

inductive Component where
  | rootDir
  | curDir
  | parentDir
  | normal (name : String)
  deriving DecidableEq, Repr

def isAbsolute (path : String) : Bool := path.toList.head? = some '/'

/-- The component of a piece between slashes; `.` counts at the front of a relative path only. -/
def componentOf (front : Bool) (piece : List Char) : Option Component :=
  if piece = [] then none
  else if piece = ['.'] then (if front then some .curDir else none)
  else if piece = ['.', '.'] then some .parentDir
  else some (.normal (String.ofList piece))

/-- `Path::components`. -/
def components (path : String) : List Component :=
  match path.toList.splitOn '/' with
  | [] => []
  | first :: rest =>
    let front := if isAbsolute path then [.rootDir] else (componentOf true first).toList
    front ++ rest.filterMap (componentOf false)

/-- `Path::join`. -/
def join (dir name : String) : String :=
  if isAbsolute name then name
  else if dir.toList.getLast?.any (· ≠ '/') then dir ++ "/" ++ name
  else dir ++ name

/-- `trim_end_matches('/')`. -/
def trimEndSlashes (s : String) : String := String.ofList (s.toList.rdropWhile (· = '/'))

/-! ## Templates -/

/-- Replaces the matches of `pattern` from left to right; `skip` characters of the last match are left. -/
def replaceFrom (pattern replacement : List Char) : Nat → List Char → List Char
  | _, [] => []
  | skip + 1, _ :: rest => replaceFrom pattern replacement skip rest
  | 0, c :: rest =>
    if pattern.isPrefixOf (c :: rest) then replacement ++ replaceFrom pattern replacement (pattern.length - 1) rest
    else c :: replaceFrom pattern replacement 0 rest

/-- `str::replace`. -/
def replace (s pattern replacement : String) : String :=
  String.ofList (replaceFrom pattern.toList replacement.toList 0 s.toList)

/-- `format!("{:02}", n)`, its braces being text. -/
def twoDigits (n : Nat) : String := if n < 10 then "0" ++ toString n else toString n

/-- What `Local::now()` reads. -/
structure LocalTime where
  year : Int
  month : Nat
  day : Nat
  hour : Nat
  minute : Nat
  second : Nat
  deriving DecidableEq, Repr

def fourDigits (n : Nat) : String := String.ofList (List.replicate (4 - (toString n).length) '0') ++ toString n

/-- `%Y`: a year outside 0 to 9999 has a sign. -/
def yearText (year : Int) : String :=
  if 0 ≤ year ∧ year ≤ 9999 then fourDigits year.toNat
  else (if year < 0 then "-" else "+") ++ fourDigits year.natAbs

/-- `format("%Y-%m-%d")`. -/
def LocalTime.date (now : LocalTime) : String :=
  yearText now.year ++ "-" ++ twoDigits now.month ++ "-" ++ twoDigits now.day

/-- `format("%H-%M-%S")`. -/
def LocalTime.time (now : LocalTime) : String :=
  twoDigits now.hour ++ "-" ++ twoDigits now.minute ++ "-" ++ twoDigits now.second

/-- What a call reads from the clock and the environment: the date and the time as formatted, `BSM_AGENT_ID`. -/
structure Surroundings where
  date : String
  time : String
  agentId : Option String
  deriving DecidableEq, Repr

/-- Expand a filename template (no extension) using tokens. -/
def expandFilenameTemplate (now : Surroundings) (template : String) (n : Nat) : String :=
  let agent := now.agentId.getD "local"
  let s := replace template "\x7bdate\x7d" now.date
  let s := replace s "\x7btime\x7d" now.time
  let s := replace s "\x7bapp\x7d" "BSM"
  let s := replace s "\x7bagent_id\x7d" agent
  replace s "\x7bn\x7d" (twoDigits n)

/-- The least number of a name that is not taken, among `numbers`. -/
def firstFree (files : List (List Component)) (name : Nat → String) (numbers : List Nat) : Option String :=
  (numbers.map name).find? fun p => components p ∉ files

/-- Resolve a unique output path; `created` is the answer of `create_dir_all`. Every try reads the clock anew. -/
def resolveOutputPath (now : Nat → Surroundings) (files : List (List Component)) (created : Except String Unit)
    (outputFolder fileNamePattern : String) (format : ContainerFormat) : Except EncodeError String :=
  match created with
  | .error e => .error (.outputFile e)
  | .ok _ =>
    let name n := join outputFolder (expandFilenameTemplate (now n) fileNamePattern n ++ "." ++ format.extension)
    match firstFree files name (List.range' 1 9999) with
    | some p => .ok p
    | none => .error (.outputFile "could not find unique name")

/-- A resolved path is one of the names in the folder, and no file was there. -/
theorem resolveOutputPath_ok {now : Nat → Surroundings} {files : List (List Component)} {created : Except String Unit}
    {outputFolder fileNamePattern path : String} {format : ContainerFormat}
    (resolved : resolveOutputPath now files created outputFolder fileNamePattern format = .ok path) :
    components path ∉ files ∧
      ∃ n, path = join outputFolder (expandFilenameTemplate (now n) fileNamePattern n ++ "." ++ format.extension) := by
  cases created with
  | error e => cases resolved
  | ok _ =>
    unfold resolveOutputPath at resolved
    dsimp only at resolved
    split at resolved
    · rename_i p found
      cases resolved
      unfold firstFree at found
      obtain ⟨n, -, name⟩ := List.mem_map.1 (List.mem_of_find?_eq_some found)
      have fresh := List.find?_some found
      exact ⟨of_decide_eq_true fresh, n, name.symm⟩
    · cases resolved

example : expandFilenameTemplate
    ⟨(LocalTime.mk 2026 1 2 3 4 5).date, (LocalTime.mk 2026 1 2 3 4 5).time, none⟩ "BSM_\x7bdate\x7d_\x7btime\x7d_\x7bn\x7d" 3 =
    "BSM_2026-01-02_03-04-05_03" := by decide

example : components "./recordings//a/../b" =
    [.curDir, .normal "recordings", .normal "a", .parentDir, .normal "b"] := by decide

end StereoMix.Encode
