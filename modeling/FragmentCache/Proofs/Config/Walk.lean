import FragmentCache.Proofs.Config.Path
import FragmentCache.Proofs.Json.Reading
import Mathlib.Data.List.Count

/-!
# Walking through a configuration

A path leads to a place in a configuration tree: its names pick one child after the other.
The path that a child is listed under leads to the place of that child exactly if the name
of the child is one name in a path.  So a walk through the listed paths meets every value of
the tree once, exactly if all names in the tree are such names.
-/

namespace FragmentCache
namespace ConfigTree

open Json (IsProper)

variable {tree : ConfigTree} {node child found : Json} {path name : String}
  {depth index : Nat} {place : List Nat}

/-! ## Children and their names -/

theorem length_childNames (node : Json) : (childNames node).length = node.children.length := by
  cases node <;> simp [childNames, Json.children]

theorem exists_child_of_listed (listed : (childNames node)[index]? = some name) :
    ∃ child, node.children[index]? = some child := by
  obtain ⟨present, -⟩ := List.getElem?_eq_some_iff.1 listed
  rw [length_childNames] at present
  exact ⟨_, List.getElem?_eq_getElem present⟩

theorem getElem?_childNames_array {items : List Json} :
    (childNames (.array items))[index]? = some name ↔
      index < items.length ∧ toString index = name := by
  rw [childNames, List.getElem?_map, Option.map_eq_some_iff]
  constructor
  · rintro ⟨number, ranged, rfl⟩
    obtain ⟨bound, rfl⟩ := List.getElem?_eq_some_iff.1 ranged
    rw [List.length_range] at bound
    exact ⟨bound, by rw [List.getElem_range]⟩
  · rintro ⟨bound, rfl⟩
    exact ⟨index, List.getElem?_range bound, rfl⟩

theorem getElem?_childNames_object {members : List (String × Json)} :
    (childNames (.object members))[index]? = some name ↔
      ∃ member, members[index]? = some member ∧ member.1 = name := by
  rw [childNames, List.getElem?_map, Option.map_eq_some_iff]

/-- The number of the child that a name in a path picks. -/
def pick? : Json → String → Option Nat
  | .object members, name => members.findIdx? fun member => member.1 == name
  | .array _, name => Text.readNatural Config.largestWord name
  | _, _ => none

/-- A name leads to the child whose number it picks. -/
theorem child?_eq_bind (node : Json) (name : String) :
    child? node name = (pick? node name).bind fun index => node.children[index]? := by
  cases node with
  | null | bool | number | string => rfl
  | array items => rfl
  | object members =>
      simp only [child?, Json.member?, pick?, Json.children]
      induction members with
      | nil => rfl
      | cons member rest inductionHypothesis =>
          obtain ⟨other, value⟩ := member
          rw [List.lookup_cons, List.findIdx?_cons]
          by_cases same : other = name
          · simp [same]
          · have differ : (name == other) = false := beq_false_of_ne (Ne.symm same)
            simp only [differ, beq_false_of_ne same, Bool.false_eq_true, if_false,
              Option.bind_map, List.map_cons]
            exact inductionHypothesis

/-- The name that a child is listed under picks it. -/
theorem pick?_of_listed
    (proper : IsProper node)
    (listed : (childNames node)[index]? = some name) :
    pick? node name = some index := by
  cases node with
  | null | bool | number | string => cases listed
  | array items =>
      obtain ⟨bound, rfl⟩ := getElem?_childNames_array.1 listed
      exact Text.readNatural_toString (Nat.le_sub_one_of_lt (Nat.lt_of_lt_of_le bound proper))
  | object members =>
      obtain ⟨member, present, rfl⟩ := getElem?_childNames_object.1 listed
      obtain ⟨bound, rfl⟩ := List.getElem?_eq_some_iff.1 present
      refine List.findIdx?_eq_some_iff_getElem.2 ⟨bound, beq_self_eq_true _, ?_⟩
      intro earlier before
      have differ := List.pairwise_iff_getElem.1 proper earlier index
        (by simpa using Nat.lt_trans before bound) (by simpa using bound) before
      simpa using differ

/-- No two children are listed under one name. -/
theorem nodup_childNames (proper : IsProper node) : (childNames node).Nodup := by
  rw [List.nodup_iff_pairwise_ne, List.pairwise_iff_getElem]
  intro first second firstBound secondBound before same
  have one := pick?_of_listed proper (List.getElem?_eq_getElem firstBound)
  have other := pick?_of_listed proper (List.getElem?_eq_getElem secondBound)
  rw [same, other] at one
  exact Nat.ne_of_gt before (Option.some.inj one)

/-- What one name in a path picks is listed under one name in a path: under that name, or
under a number. -/
theorem isSegment_of_pick?
    {picked : String}
    (isSegment : IsSegment picked)
    (picks : pick? node picked = some index)
    (listed : (childNames node)[index]? = some name) :
    IsSegment name := by
  cases node with
  | null | bool | number | string => cases listed
  | array items =>
      obtain ⟨-, rfl⟩ := getElem?_childNames_array.1 listed
      exact isSegment_toString index
  | object members =>
      obtain ⟨bound, same, -⟩ := List.findIdx?_eq_some_iff_getElem.1 picks
      obtain ⟨member, present, rfl⟩ := getElem?_childNames_object.1 listed
      obtain ⟨_, rfl⟩ := List.getElem?_eq_some_iff.1 present
      rwa [eq_of_beq same]

/-! ## The place that a path leads to -/

/-- The place inside a value that some names lead to. -/
def placeOf? (node : Json) : List String → Option (List Nat)
  | [] => some []
  | name :: rest => do
    let index ← pick? node name
    let child ← node.children[index]?
    let below ← placeOf? child rest
    return index :: below

/-- Names lead to a place by way of the child that the first one picks. -/
theorem placeOf?_cons_eq_some_iff {rest : List String} :
    placeOf? node (name :: rest) = some place ↔
      ∃ index child below, pick? node name = some index ∧ node.children[index]? = some child ∧
        placeOf? child rest = some below ∧ index :: below = place := by
  simp only [placeOf?, Option.bind_eq_bind, Option.bind_eq_some_iff, Option.pure_def,
    Option.some.injEq]
  constructor
  · rintro ⟨index, picks, child, listed, below, leads, rfl⟩
    exact ⟨index, child, below, picks, listed, leads, rfl⟩
  · rintro ⟨index, child, below, picks, listed, leads, rfl⟩
    exact ⟨index, picks, child, listed, below, leads, rfl⟩

/-- Names lead on from where others have led. -/
theorem placeOf?_append
    {front : List String}
    (leads : placeOf? node front = some place)
    (above : node.at? place = some found)
    (back : List String) :
    placeOf? node (front ++ back) = (placeOf? found back).map (place ++ ·) := by
  induction front generalizing node place with
  | nil =>
      cases leads
      cases above
      rw [List.nil_append]
      cases placeOf? found back <;> rfl
  | cons name rest inductionHypothesis =>
      obtain ⟨index, child, below, picks, listed, leadsOn, rfl⟩ :=
        placeOf?_cons_eq_some_iff.1 leads
      rw [Json.at?_cons listed] at above
      rw [List.cons_append, placeOf?, picks, Option.bind_eq_bind, Option.bind_some, listed,
        Option.bind_eq_bind, Option.bind_some, inductionHypothesis leadsOn above]
      cases placeOf? found back <;> rfl

/-- Names lead to a place exactly if they lead to a value, the one at that place. -/
theorem foldlM_child?_eq_bind (node : Json) (names : List String) :
    names.foldlM child? node = (placeOf? node names).bind node.at? := by
  induction names generalizing node with
  | nil => rfl
  | cons name rest inductionHypothesis =>
      rw [List.foldlM_cons, child?_eq_bind, placeOf?]
      cases pick? node name with
      | none => rfl
      | some index =>
          simp only [Option.bind_eq_bind, Option.bind_some]
          cases listed : node.children[index]? with
          | none => rfl
          | some child =>
              simp only [Option.bind_some, inductionHypothesis]
              cases placeOf? child rest with
              | none => rfl
              | some below => exact (Json.at?_cons listed below).symm

/-- Where names lead there is a value. -/
theorem exists_at?_of_placeOf?
    {names : List String}
    (leads : placeOf? node names = some place) :
    ∃ found, node.at? place = some found := by
  induction names generalizing node place with
  | nil =>
      cases leads
      exact ⟨node, rfl⟩
  | cons name rest inductionHypothesis =>
      obtain ⟨index, child, below, -, listed, leadsOn, rfl⟩ :=
        placeOf?_cons_eq_some_iff.1 leads
      obtain ⟨found, inside⟩ := inductionHypothesis leadsOn
      exact ⟨found, Json.at?_cons_eq_some_iff.2 ⟨child, listed, inside⟩⟩

/-- On the way to a place that names in paths lead to, every child is listed under one name in
a path. -/
theorem isSegment_of_placeOf?
    {names : List String}
    (segments : ∀ picked ∈ names, IsSegment picked)
    {front back : List Nat}
    (leads : placeOf? node names = some (front ++ index :: back))
    (above : node.at? front = some found)
    (listed : (childNames found)[index]? = some name) :
    IsSegment name := by
  induction names generalizing node front with
  | nil => simp [placeOf?] at leads
  | cons picked rest inductionHypothesis =>
      obtain ⟨first, child, below, picks, picked, leadsOn, same⟩ :=
        placeOf?_cons_eq_some_iff.1 leads
      obtain _ | ⟨_, front⟩ := front
      · cases above
        cases same
        exact isSegment_of_pick? (segments _ List.mem_cons_self) picks listed
      · obtain ⟨rfl, rfl⟩ := List.cons.inj same
        rw [Json.at?_cons picked] at above
        exact inductionHypothesis (fun other among => segments other (List.mem_cons_of_mem _ among))
          leadsOn above

/-- The place that a path leads to. -/
def place? (tree : ConfigTree) (path : String) : Option (List Nat) :=
  placeOf? tree.root (names path)

/-- A path leads to the value at its place. -/
theorem node?_eq_bind (tree : ConfigTree) (path : String) :
    tree.node? path = (tree.place? path).bind tree.root.at? :=
  foldlM_child?_eq_bind tree.root (names path)

/-- A child that a path leads to is listed under one name in a path. -/
theorem isSegment_of_place?
    (leads : tree.place? path = some (place ++ [index]))
    (above : tree.root.at? place = some found)
    (listed : (childNames found)[index]? = some name) :
    IsSegment name :=
  isSegment_of_placeOf? (fun _ => isSegment_of_mem_names) leads above listed

/-- The path of a child leads to the place of the child exactly if the name of the child is
one name in a path. -/
theorem place?_childPath_iff
    (proper : IsProper found)
    (leads : tree.place? path = some place)
    (above : tree.root.at? place = some found)
    (listed : (childNames found)[index]? = some name) :
    tree.place? (childPath path name) = some (place ++ [index]) ↔ IsSegment name := by
  constructor
  · intro leadsOn
    exact isSegment_of_place? leadsOn above listed
  · intro isSegment
    obtain ⟨child, present⟩ := exists_child_of_listed listed
    have picks : placeOf? found [name] = some [index] := by
      rw [placeOf?_cons_eq_some_iff]
      exact ⟨index, child, [], pick?_of_listed proper listed, present, rfl, rfl⟩
    rw [place?, names_childPath, names_of_isSegment isSegment, placeOf?_append leads above, picks,
      Option.map_some]

/-! ## What a path is answered with -/

/-- Asked by a path, a tree answers about a value. -/
structure AnswersAbout (tree : ConfigTree) (path : String) (node : Json) : Prop where
  value : tree.value path = scalarText? node
  contains : tree.contains path = true ↔ node ≠ .null
  subKeys : tree.subKeys path = (childNames node).map (childPath path)

theorem answersAbout_of_node? (found : tree.node? path = some node) :
    tree.AnswersAbout path node where
  value := by rw [value, found, Option.bind_some]
  contains := by
    rw [contains, found]
    cases node <;> simp
  subKeys := by
    rw [subKeys, found]
    rfl

/-- Asked by a path that leads to a place, a tree answers about the value there. -/
theorem answersAbout_of_place?
    (leads : tree.place? path = some place)
    (above : tree.root.at? place = some node) :
    tree.AnswersAbout path node :=
  answersAbout_of_node? (by rw [node?_eq_bind, leads, Option.bind_some, above])

/-! ## Walks -/

/-- The paths that are met on the walks from a path through listed ones, `depth` steps
deep. -/
def walk (tree : ConfigTree) : Nat → String → List String
  | 0, path => [path]
  | depth + 1, path => path :: (tree.subKeys path).flatMap (tree.walk depth)

/-- The walks from a path meet every value of a tree once, and nothing else. -/
def WalksOnce (tree : ConfigTree) (start : String) : Prop :=
  ∀ depth, none ∉ (tree.walk depth start).map tree.place? ∧
    ∀ place node, tree.root.at? place = some node → place.length ≤ depth →
      ((tree.walk depth start).map tree.place?).count (some place) = 1

/-- A walk that meets a value takes a path that leads to it. -/
theorem WalksOnce.exists_path
    {start : String}
    (walks : tree.WalksOnce start)
    (above : tree.root.at? place = some found) :
    ∃ path, tree.place? path = some place := by
  have once := (walks place.length).2 place found above (Nat.le_refl _)
  have met := List.count_pos_iff.1 (Nat.lt_of_lt_of_eq Nat.zero_lt_one once.symm)
  obtain ⟨path, -, leads⟩ := List.mem_map.1 met
  exact ⟨path, leads⟩

/-- Every child of a value is listed under one name in a path. -/
def ListsSegments (node : Json) : Prop := ∀ name ∈ childNames node, IsSegment name

instance (node : Json) : Decidable (ListsSegments node) :=
  inferInstanceAs (Decidable (∀ name ∈ childNames node, IsSegment name))

/-- Where all names are names in paths, the walks from the path of a value meet the places
inside that value, one after the other. -/
theorem map_place?_walk
    (proper : tree.root.Throughout IsProper)
    (segments : tree.root.Throughout ListsSegments)
    (leads : tree.place? path = some place)
    (above : tree.root.at? place = some node) :
    (tree.walk depth path).map tree.place? =
      (node.places depth).map fun below => some (place ++ below) := by
  induction depth generalizing path place node with
  | zero => simp [walk, Json.places, leads]
  | succ depth inductionHypothesis =>
      have children : ((tree.subKeys path).map fun listed =>
            (tree.walk depth listed).map tree.place?) =
          (node.children.mapIdx fun index child => (child.places depth).map (index :: ·)).map
            (List.map fun below => some (place ++ below)) := by
        rw [(answersAbout_of_place? leads above).subKeys, List.map_map]
        apply List.ext_getElem?
        intro index
        rw [List.getElem?_map, List.getElem?_map, List.getElem?_mapIdx]
        cases listed : (childNames node)[index]? with
        | none =>
            rw [List.getElem?_eq_none_iff, length_childNames] at listed
            rw [List.getElem?_eq_none_iff.2 listed]
            rfl
        | some name =>
            obtain ⟨child, present⟩ := exists_child_of_listed listed
            have isSegment := segments place node above name (List.mem_of_getElem? listed)
            have leadsOn := (place?_childPath_iff (proper place node above) leads above listed).2
              isSegment
            have inside := (Json.at?_concat above index).trans present
            rw [present, Option.map_some, Option.map_some, Option.map_some, Function.comp_apply,
              inductionHypothesis leadsOn inside]
            simp only [List.map_map, Function.comp_def, List.append_assoc, List.singleton_append]
      rw [walk, List.map_cons, List.map_flatMap, List.flatMap_def, children, leads, Json.places,
        List.map_cons, List.append_nil, List.map_flatten]

/-- The names in a tree are names in paths exactly if the walks from any path of the root
meet every value once. -/
theorem listsSegments_iff_walksOnce (proper : tree.root.Throughout IsProper) :
    tree.root.Throughout ListsSegments ↔
      ∀ start, tree.place? start = some [] → tree.WalksOnce start := by
  constructor
  · intro segments start leads depth
    rw [map_place?_walk proper segments leads rfl]
    constructor
    · intro absent
      obtain ⟨_, -, present⟩ := List.mem_map.1 absent
      cases present
    · intro place node above short
      have once := Json.count_places (Option.isSome_iff_exists.2 ⟨node, above⟩) short
      simp only [List.nil_append]
      rw [List.count_map_of_injective _ _ fun _ _ => Option.some.inj, once]
  · intro walks place node above name listed
    obtain ⟨index, listed⟩ := List.mem_iff_getElem?.1 listed
    obtain ⟨child, present⟩ := exists_child_of_listed listed
    obtain ⟨path, leads⟩ := (walks "" rfl).exists_path ((Json.at?_concat above index).trans present)
    exact isSegment_of_place? leads above listed

/-- A tree that is read from a text that fits in memory holds proper values only. -/
theorem proper_of_ofText
    {text : String}
    (short : text.length < 2 ^ 63)
    (read : ofText text = .ok tree) :
    tree.root.Throughout IsProper := by
  unfold ofText at read
  split at read
  · next root parsed =>
      cases read
      exact Json.proper_of_ofText? short parsed
  · cases read

/-- Every path that leads to a value lists one path for each child of that value, no path
twice, and what is asked by a path is answered about the value that it leads to.  A listed path
leads to its own child exactly if the name of that child is one name in a path, not empty and
without slashes, as the numbers of items are.  So the walks through listed paths meet every
value once exactly if all names in the tree are such names. -/
theorem listed_paths_lead_back_iff
    (tree : ConfigTree)
    (proper : tree.root.Throughout IsProper) :
    (∀ path, tree.place? path = none → tree.node? path = none ∧ tree.subKeys path = []) ∧
      (∀ path place, tree.place? path = some place →
        ∃ node, tree.root.at? place = some node ∧ tree.AnswersAbout path node ∧
          (tree.subKeys path).length = node.children.length ∧ (tree.subKeys path).Nodup ∧
            ∀ index name, (childNames node)[index]? = some name →
              (tree.place? (childPath path name) = some (place ++ [index]) ↔ IsSegment name)) ∧
        ((∀ start, tree.place? start = some [] → tree.WalksOnce start) ↔
          tree.root.Throughout ListsSegments) := by
  refine ⟨fun path nowhere => ?_, fun path place leads => ?_, ?_⟩
  · have missing : tree.node? path = none := by rw [node?_eq_bind, nowhere, Option.bind_none]
    refine ⟨missing, ?_⟩
    rw [subKeys, missing]
  · obtain ⟨node, above⟩ := exists_at?_of_placeOf? leads
    have answers := answersAbout_of_place? leads above
    refine ⟨node, above, answers, ?_, ?_, fun index name listed => ?_⟩
    · rw [answers.subKeys, List.length_map, length_childNames]
    · rw [answers.subKeys]
      exact (nodup_childNames (proper place node above)).map (childPath_injective path)
    · exact place?_childPath_iff (proper place node above) leads above listed
  · exact (listsSegments_iff_walksOnce proper).symm

/-- Addresses of servers. -/
def addresses : Json := .array [.string "a:11211", .string "b:11211"]

/-- A tree with addresses of servers. -/
def servers : ConfigTree where
  root := .object [("servers", addresses)]

/-- An address is found by its number, and walks through a list of addresses meet everything
once. -/
theorem listed_paths_lead_back_iff_servers :
    servers.root.Throughout IsProper ∧
      servers.place? (childPath "servers//" "1") = some [0, 1] ∧ servers.WalksOnce "/" := by
  have everywhere {Property : Json → Prop} (object : Property servers.root)
      (array : Property addresses) (text : ∀ text, Property (.string text)) :
      servers.root.Throughout Property := by
    have leaf (string : String) : (Json.string string).Throughout Property :=
      Json.throughout_iff.2 ⟨text string, nofun⟩
    have below : addresses.Throughout Property :=
      Json.throughout_iff.2 ⟨array, by simp [addresses, Json.children, leaf]⟩
    exact Json.throughout_iff.2 ⟨object, by simp [servers, Json.children, below]⟩
  have proper : servers.root.Throughout IsProper :=
    everywhere (by decide) (by decide) fun _ => trivial
  have segments : servers.root.Throughout ListsSegments :=
    everywhere (by decide) (by decide) fun _ => nofun
  obtain ⟨-, listed, walks⟩ := listed_paths_lead_back_iff servers proper
  obtain ⟨_, above, -, -, -, leadsBack⟩ := listed "servers//" [0] (by decide)
  cases above
  exact ⟨proper, (leadsBack 1 "1" rfl).2 (by decide), walks.2 segments "/" (by decide)⟩

/-- A tree with a name that has a slash. -/
def slashed : ConfigTree where
  root := .object [("a/b", .number (.natural 1))]

/-- The path that is listed for a child whose name has a slash leads nowhere, and no path leads
to that child. -/
theorem slashed_child_is_missed :
    slashed.root.at? [0] = some (.number (.natural 1)) ∧ slashed.subKeys "" = ["/a/b"] ∧
      slashed.value "/a/b" = none ∧ slashed.contains "/a/b" = false ∧
        (∀ path, slashed.place? path ≠ some [0]) ∧ ¬slashed.WalksOnce "" := by
  have above : slashed.root.at? [0] = some (.number (.natural 1)) := rfl
  have missed (path : String) : slashed.place? path ≠ some ([] ++ [0]) := by
    intro leads
    have isSegment : IsSegment "a/b" := isSegment_of_place? leads rfl rfl
    revert isSegment
    decide
  refine ⟨above, by decide, rfl, rfl, missed, fun walks => ?_⟩
  obtain ⟨path, leads⟩ := walks.exists_path above
  exact missed path leads

end ConfigTree
end FragmentCache
