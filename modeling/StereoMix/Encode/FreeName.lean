import StereoMix.Encode.OutputRoot
import Mathlib.Data.Finset.Card
import Mathlib.Order.Interval.Finset.Nat

/-!
# The search for a free name

`resolve_output_path` tries the numbers 1 to 9999. In a template with `{n}` the number stays readable whatever the
other tokens become, so the names tried are distinct, and each of them is one entry of the folder: the search ends
without a name only when 9999 entries of the folder have them all.
-/

namespace StereoMix.Encode

/-! ## The number in a name -/

/-- What `{n}` becomes is read back as the number. -/
theorem ofDigitChars_twoDigits (n : Nat) : Nat.ofDigitChars 10 (twoDigits n).toList 0 = n := by
  have digits : Nat.ofDigitChars 10 (toString n).toList 0 = n := by
    rw [Nat.toString_eq_ofList_toDigits, String.toList_ofList, Nat.ofDigitChars_ten_toDigits]
  unfold twoDigits
  split
  · rw [String.toList_append, show "0".toList = ['0'] by decide, List.singleton_append, Nat.ofDigitChars_cons]
    exact digits
  · exact digits

theorem twoDigits_injective : Function.Injective twoDigits := by
  intro m n same
  rw [← ofDigitChars_twoDigits m, same, ofDigitChars_twoDigits]

/-- What a call reads at a time, with a given `BSM_AGENT_ID`. -/
def surroundingsAt (now : LocalTime) (agentId : Option String) : Surroundings := ⟨now.date, now.time, agentId⟩

variable {now : LocalTime} {agentId : Option String} {pattern : String}

/-- The template with all its tokens replaced but the number's. -/
def numberless (now : Surroundings) (template : String) : String :=
  replace (replace (replace (replace template "\x7bdate\x7d" now.date) "\x7btime\x7d" now.time) "\x7bapp\x7d" "BSM")
    "\x7bagent_id\x7d" (now.agentId.getD "local")

theorem expand_eq (s : Surroundings) (template : String) (n : Nat) :
    expandFilenameTemplate s template n = replace (numberless s template) "\x7bn\x7d" (twoDigits n) := rfl

/-- The tokens replaced before the number's leave it where it is. -/
theorem number_infix_numberless (s : Surroundings) (occurs : "\x7bn\x7d".toList <:+: pattern.toList) :
    "\x7bn\x7d".toList <:+: (numberless s pattern).toList := by
  have stays (name : String) (own : '\x7b' ∉ name.toList)
      (apart : ¬ name.toList <+: "n\x7d".toList ∧ ¬ "n\x7d".toList <+: name.toList) {template text : List Char}
      (here : '\x7b' :: "n\x7d".toList <:+: template) :
      '\x7b' :: "n\x7d".toList <:+: replaceFrom ('\x7b' :: name.toList) text 0 template :=
    token_infix_replaceFrom own (by decide) apart here
  rw [show "\x7bn\x7d".toList = '\x7b' :: "n\x7d".toList by decide] at occurs ⊢
  unfold numberless replace
  simp only [String.toList_ofList]
  apply stays "agent_id\x7d" (by decide) (by decide)
  apply stays "app\x7d" (by decide) (by decide)
  apply stays "time\x7d" (by decide) (by decide)
  exact stays "date\x7d" (by decide) (by decide) occurs

theorem replace_injective {s token : String} (nonempty : token.toList ≠ []) (occurs : token.toList <:+: s.toList) :
    Function.Injective (replace s token) := by
  intro t u same
  unfold replace at same
  exact String.toList_injective (replaceFrom_injective nonempty occurs (String.ofList_injective same))

/-- **Different numbers give different names.** -/
theorem expand_injective (s : Surroundings) (occurs : "\x7bn\x7d".toList <:+: pattern.toList) :
    Function.Injective (expandFilenameTemplate s pattern) := by
  intro m n same
  rw [expand_eq, expand_eq] at same
  exact twoDigits_injective (replace_injective (by decide) (number_infix_numberless s occurs) same)

/-! ## One entry of the folder -/

theorem notMem_replace {s text : String} (token : String) {c : Char} (before : c ∉ s.toList)
    (value : c ∉ text.toList) : c ∉ (replace s token text).toList := by
  unfold replace
  rw [String.toList_ofList]
  intro member
  exact (mem_replaceFrom member).elim before value

theorem slash_notMem_expand (inside : '/' ∉ pattern.toList) (agent : ∀ id ∈ agentId, '/' ∉ id.toList) (n : Nat) :
    '/' ∉ (expandFilenameTemplate (surroundingsAt now agentId) pattern n).toList := by
  have agent_text : '/' ∉ (agentId.getD "local").toList := by
    cases agentId with
    | none => decide
    | some id => exact agent id rfl
  have date := notMem_replace "\x7bdate\x7d" inside ((plainText_date now).notMem (by decide))
  have time := notMem_replace "\x7btime\x7d" date ((plainText_time now).notMem (by decide))
  have app : '/' ∉ (replace _ "\x7bapp\x7d" "BSM").toList := notMem_replace "\x7bapp\x7d" time (by decide)
  have whole := notMem_replace "\x7bagent_id\x7d" app agent_text
  exact notMem_replace "\x7bn\x7d" whole ((plainText_twoDigits n).notMem (by decide))

/-- A name without a slash that is not only dots is one component. -/
theorem componentOf_name {name : String} (word : ∃ c ∈ name.toList, c ≠ '.') (front : Bool) :
    componentOf front name.toList = some (.normal name) := by
  have other {dots : List Char} (only : ∀ c ∈ dots, c = '.') : name.toList ≠ dots := by
    rintro rfl
    obtain ⟨c, member, differs⟩ := word
    exact differs (only c member)
  unfold componentOf
  rw [if_neg (other (by simp)), if_neg (other (by simp)), if_neg (other (by simp)), String.ofList_toList]

theorem components_join_name (folder : String) {name : String} (inside : '/' ∉ name.toList)
    (word : ∃ c ∈ name.toList, c ≠ '.') : components (join folder name) = components folder ++ [.normal name] := by
  have relative : isAbsolute name = false := by
    unfold isAbsolute
    rw [decide_eq_false_iff_not]
    exact fun front => inside (List.mem_of_mem_head? front)
  by_cases empty : folder = ""
  · have path : join folder name = name := by
      subst empty
      unfold join
      rw [if_neg (by rw [relative]; exact Bool.false_ne_true), if_neg (by decide), String.empty_append]
    rw [path, empty, show components "" = [] by decide]
    unfold components
    rw [List.splitOn_eq_singleton inside, relative]
    dsimp only
    rw [componentOf_name word]
    rfl
  · rw [components_join empty relative, restComponents, List.splitOn_eq_singleton inside]
    simp [componentOf_name word]

/-- `Path::extension` of a file name: what follows its last dot, if something stands before that. -/
def extensionOf (name : String) : Option String :=
  if (name.toList.rdropWhile (· ≠ '.')).length ≤ 1 then none
  else some (String.ofList (name.toList.rtakeWhile (· ≠ '.')))

theorem extensionOf_append {stem ext : String} (some_stem : stem ≠ "") (plain : '.' ∉ ext.toList) :
    extensionOf (stem ++ "." ++ ext) = some ext := by
  have behind : ∀ c ∈ ext.toList.reverse, decide (c ≠ '.') = true := by
    intro c member
    rw [decide_eq_true_iff]
    rintro rfl
    exact plain (List.mem_reverse.1 member)
  have chars : (stem ++ "." ++ ext).toList.reverse = ext.toList.reverse ++ '.' :: stem.toList.reverse := by simp
  have length : 0 < stem.toList.length :=
    List.length_pos_of_ne_nil fun empty => some_stem (String.toList_eq_nil_iff.1 empty)
  unfold extensionOf List.rdropWhile List.rtakeWhile
  rw [chars, List.dropWhile_append_of_pos behind, List.takeWhile_append_of_pos behind, if_neg]
  · simp
  · simp
    omega

/-! ## The search -/

/-- The first free path is that of the least number whose path is free. -/
theorem firstFree_eq_some {files : List (List Component)} {name : Nat → String} {count : Nat} {p : String} :
    firstFree files name (List.range' 1 count) = some p ↔
      ∃ n, 1 ≤ n ∧ n ≤ count ∧ p = name n ∧ components (name n) ∉ files ∧
        ∀ m, 1 ≤ m → m < n → components (name m) ∈ files := by
  unfold firstFree
  rw [List.find?_map, Option.map_eq_some_iff]
  constructor
  · rintro ⟨n, found, rfl⟩
    obtain ⟨free, member, before⟩ := List.find?_range'_eq_some.1 found
    obtain ⟨from_one, to_count⟩ := List.mem_range'_1.1 member
    refine ⟨n, from_one, by omega, rfl, by simpa using free, fun m one less => ?_⟩
    simpa using before m one less
  · rintro ⟨n, one, last, rfl, free, before⟩
    refine ⟨n, List.find?_range'_eq_some.2 ⟨by simpa using free, ?_, fun m one less => ?_⟩, rfl⟩
    · exact List.mem_range'_1.2 ⟨one, by omega⟩
    · simpa using before m one less

/-- Where some number is free, a least one is. -/
theorem exists_least_free (free : Nat → Prop) {count n : Nat} (one : 1 ≤ n) (last : n ≤ count) (here : free n) :
    ∃ k, 1 ≤ k ∧ k ≤ count ∧ free k ∧ ∀ m, 1 ≤ m → m < k → ¬ free m := by
  classical
  have some_free : ∃ k, 1 ≤ k ∧ free k := ⟨n, one, here⟩
  have least := Nat.find_spec some_free
  refine ⟨Nat.find some_free, least.1, ?_, least.2, fun m from_one less other => ?_⟩
  · exact (Nat.find_min' some_free ⟨one, here⟩).trans last
  · exact Nat.find_min some_free less ⟨from_one, other⟩

/-- The name of a file that lies directly in a folder. -/
def nameIn (folder file : List Component) : Option String :=
  match file.getLast? with
  | some (.normal name) => if file = folder ++ [.normal name] then some name else none
  | _ => none

theorem nameIn_concat (folder : List Component) (name : String) :
    nameIn folder (folder ++ [.normal name]) = some name := by
  simp [nameIn]

/-- The names of the entries of a folder. -/
def entries (files : List (List Component)) (folder : String) : Finset String :=
  (files.filterMap (nameIn (components folder))).toFinset

/-- A folder with fewer entries than names to try leaves one of them free. -/
theorem exists_free {files : List (List Component)} {folder : String} {count : Nat} (path name : Nat → String)
    (inside : ∀ n, components (path n) = components folder ++ [.normal (name n)]) (distinct : Function.Injective name)
    (few : (entries files folder).card < count) : ∃ n, 1 ≤ n ∧ n ≤ count ∧ components (path n) ∉ files := by
  by_contra none_free
  push Not at none_free
  have taken : (Finset.Icc 1 count).image name ⊆ entries files folder := by
    intro entry member
    obtain ⟨n, number, rfl⟩ := Finset.mem_image.1 member
    obtain ⟨one, last⟩ := Finset.mem_Icc.1 number
    rw [entries, List.mem_toFinset, List.mem_filterMap]
    refine ⟨components (path n), none_free n one last, ?_⟩
    rw [inside, nameIn_concat]
  have fits := Finset.card_le_card taken
  rw [Finset.card_image_of_injective _ distinct, Nat.card_Icc] at fits
  omega

/-! ## Paths in the folder -/

variable {outputFolder : String} {format : ContainerFormat}

/-- The name that the search tries for a number. -/
def triedName (now : LocalTime) (agentId : Option String) (pattern : String) (format : ContainerFormat) (n : Nat) :
    String :=
  expandFilenameTemplate (surroundingsAt now agentId) pattern n ++ "." ++ format.extension

def triedPath (now : LocalTime) (agentId : Option String) (outputFolder pattern : String) (format : ContainerFormat)
    (n : Nat) : String :=
  join outputFolder (triedName now agentId pattern format n)

/-- A call at a time that stands still, for a folder that is there. -/
def resolveAt (now : LocalTime) (agentId : Option String) (files : List (List Component))
    (outputFolder pattern : String) (format : ContainerFormat) : Except EncodeError String :=
  resolveOutputPath (fun _ => surroundingsAt now agentId) files (.ok ()) outputFolder pattern format

theorem resolveAt_eq_ok {files : List (List Component)} {p : String} :
    resolveAt now agentId files outputFolder pattern format = .ok p ↔
      ∃ n, 1 ≤ n ∧ n ≤ 9999 ∧ p = triedPath now agentId outputFolder pattern format n ∧
        components (triedPath now agentId outputFolder pattern format n) ∉ files ∧
        ∀ m, 1 ≤ m → m < n → components (triedPath now agentId outputFolder pattern format m) ∈ files := by
  unfold resolveAt resolveOutputPath triedPath triedName
  dsimp only
  rw [← firstFree_eq_some]
  generalize firstFree files _ (List.range' 1 9999) = found
  cases found <;> simp

theorem triedName_injective (occurs : "\x7bn\x7d".toList <:+: pattern.toList) :
    Function.Injective (triedName now agentId pattern format) := by
  intro m n same
  unfold triedName at same
  rw [String.append_assoc, String.append_assoc] at same
  apply expand_injective (surroundingsAt now agentId) occurs
  simpa using same

theorem expand_ne_empty (s : Surroundings) (occurs : "\x7bn\x7d".toList <:+: pattern.toList) (n : Nat) :
    expandFilenameTemplate s pattern n ≠ "" := by
  intro empty
  rw [expand_eq, replace] at empty
  have digits : (twoDigits n).toList <:+: _ := text_infix_replaceFrom (by decide) (number_infix_numberless s occurs)
  rw [String.ofList_eq_empty_iff.1 empty, List.infix_nil] at digits
  exact (plainText_twoDigits n).nonempty (String.toList_eq_nil_iff.1 digits)

/-- Each path tried is the folder's and then the name tried. -/
theorem components_triedPath (inside : '/' ∉ pattern.toList) (agent : ∀ id ∈ agentId, '/' ∉ id.toList) (n : Nat) :
    components (triedPath now agentId outputFolder pattern format n) =
      components outputFolder ++ [.normal (triedName now agentId pattern format n)] := by
  have plain : '/' ∉ ("." ++ format.extension).toList ∧ ∃ c ∈ ("." ++ format.extension).toList, c ≠ '.' := by
    cases format
    · exact ⟨by decide, 'm', by decide, by decide⟩
    · exact ⟨by decide, 'f', by decide, by decide⟩
    · exact ⟨by decide, 'w', by decide, by decide⟩
  apply components_join_name
  · rw [triedName, String.append_assoc, String.toList_append, List.mem_append, not_or]
    exact ⟨slash_notMem_expand inside agent n, plain.1⟩
  · obtain ⟨c, member, other⟩ := plain.2
    refine ⟨c, ?_, other⟩
    rw [triedName, String.append_assoc, String.toList_append]
    exact List.mem_append_right _ member

theorem extensionOf_triedName (occurs : "\x7bn\x7d".toList <:+: pattern.toList) (n : Nat) :
    extensionOf (triedName now agentId pattern format n) = some format.extension := by
  apply extensionOf_append (expand_ne_empty (surroundingsAt now agentId) occurs n)
  cases format <;> decide

/-- **The search finds a free name whenever one exists**, and the first one. -/
theorem free_name_found (now : LocalTime) (agentId : Option String) (files : List (List Component))
    (outputFolder pattern : String) (format : ContainerFormat) (occurs : "\x7bn\x7d".toList <:+: pattern.toList)
    (inside : '/' ∉ pattern.toList) (agent : ∀ id ∈ agentId, '/' ∉ id.toList) :
    Function.Injective (expandFilenameTemplate (surroundingsAt now agentId) pattern) ∧
      ((∃ p, resolveAt now agentId files outputFolder pattern format = .ok p) ↔
        ∃ n, 1 ≤ n ∧ n ≤ 9999 ∧ components (triedPath now agentId outputFolder pattern format n) ∉ files) ∧
      (∀ p, resolveAt now agentId files outputFolder pattern format = .ok p →
        components p ∉ files ∧
          ∃ n, 1 ≤ n ∧ n ≤ 9999 ∧ p = triedPath now agentId outputFolder pattern format n ∧
            components p = components outputFolder ++ [.normal (triedName now agentId pattern format n)] ∧
            extensionOf (triedName now agentId pattern format n) = some format.extension ∧
            ∀ m, 1 ≤ m → m < n → components (triedPath now agentId outputFolder pattern format m) ∈ files) ∧
      ((entries files outputFolder).card < 9999 →
        ∃ p, resolveAt now agentId files outputFolder pattern format = .ok p) := by
  have found : (∃ p, resolveAt now agentId files outputFolder pattern format = .ok p) ↔
      ∃ n, 1 ≤ n ∧ n ≤ 9999 ∧ components (triedPath now agentId outputFolder pattern format n) ∉ files := by
    constructor
    · rintro ⟨p, resolved⟩
      obtain ⟨n, one, last, -, free, -⟩ := resolveAt_eq_ok.1 resolved
      exact ⟨n, one, last, free⟩
    · rintro ⟨n, one, last, free⟩
      obtain ⟨k, one, last, free, before⟩ := exists_least_free
        (fun k => components (triedPath now agentId outputFolder pattern format k) ∉ files) one last free
      exact ⟨_, resolveAt_eq_ok.2 ⟨k, one, last, rfl, free, fun m one less => not_not.1 (before m one less)⟩⟩
  refine ⟨expand_injective _ occurs, found, fun p resolved => ?_, fun few => ?_⟩
  · obtain ⟨n, one, last, path, free, before⟩ := resolveAt_eq_ok.1 resolved
    rw [path]
    exact ⟨free, n, one, last, rfl, components_triedPath inside agent n, extensionOf_triedName occurs n, before⟩
  · have free := exists_free (triedPath now agentId outputFolder pattern format) (triedName now agentId pattern format)
      (components_triedPath inside agent) (triedName_injective occurs) few
    exact found.2 free

/-- A second take by `desk`, in a folder with one. -/
def secondTake : Except EncodeError String :=
  resolveAt ⟨2026, 1, 2, 3, 4, 5⟩ (some "desk") [[.normal "rec", .normal "desk_01.wav"]] "rec"
    "\x7bagent_id\x7d_\x7bn\x7d" .wav

theorem free_name_found_second :
    secondTake = .ok "rec/desk_02.wav" ∧ components "rec/desk_02.wav" ∉ [[.normal "rec", .normal "desk_01.wav"]] := by
  have resolved : secondTake = .ok "rec/desk_02.wav" := by rfl
  have agent : ∀ id ∈ some "desk", '/' ∉ id.toList := by
    rintro id ⟨⟩
    decide
  have all := free_name_found ⟨2026, 1, 2, 3, 4, 5⟩ (some "desk") [[.normal "rec", .normal "desk_01.wav"]] "rec"
    "\x7bagent_id\x7d_\x7bn\x7d" .wav (by decide) (by decide) agent
  exact ⟨resolved, (all.2.2.1 _ resolved).1⟩

end StereoMix.Encode
