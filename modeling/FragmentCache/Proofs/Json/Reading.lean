import FragmentCache.Json.Read
import FragmentCache.Proofs.Json.Places
import Mathlib.Data.String.Basic

/-!
# Values read from JSON text

However a text repeats or mixes the names of an object, the object that is read from it lists
them in their order, each once, and so does every object inside it.
-/

namespace FragmentCache
namespace Json

/-! ## Members in order -/

/-- Members stand in the order of their names, each name once. -/
def InOrder (members : List (String × Json)) : Prop :=
  members.Pairwise fun first second => first.1 < second.1

theorem InOrder.nodup {members : List (String × Json)} (ordered : InOrder members) :
    (members.map Prod.fst).Nodup := by
  rw [List.nodup_iff_pairwise_ne, List.pairwise_map]
  exact List.Pairwise.imp (fun before => ne_of_lt before) ordered

section Insertion

variable {name : String} {value : Json} {members : List (String × Json)}

theorem mem_insertMember
    {member : String × Json}
    (listed : member ∈ insertMember name value members) :
    member = (name, value) ∨ member ∈ members := by
  induction members with
  | nil => exact Or.inl (List.mem_singleton.1 listed)
  | cons first rest inductionHypothesis =>
      obtain ⟨other, old⟩ := first
      rw [insertMember] at listed
      split at listed
      · obtain same | listed := List.mem_cons.1 listed
        · exact Or.inl same
        · exact Or.inr (List.mem_cons_of_mem _ listed)
      · split at listed
        · exact List.mem_cons.1 listed
        · obtain rfl | listed := List.mem_cons.1 listed
          · exact Or.inr List.mem_cons_self
          · exact (inductionHypothesis listed).imp_right (List.mem_cons_of_mem _)

/-- A member that is inserted stands in its place, or takes that of an old one. -/
theorem InOrder.insertMember (ordered : InOrder members) :
    InOrder (insertMember name value members) := by
  induction members with
  | nil => exact List.pairwise_singleton _ _
  | cons first rest inductionHypothesis =>
      obtain ⟨other, old⟩ := first
      obtain ⟨before, restOrdered⟩ := List.pairwise_cons.1 ordered
      rw [Json.insertMember]
      split
      · next same =>
          subst same
          exact List.pairwise_cons.2 ⟨before, restOrdered⟩
      · next differ =>
          split
          · next lower =>
              refine List.pairwise_cons.2 ⟨fun member listed => ?_, ordered⟩
              obtain rfl | listed := List.mem_cons.1 listed
              · exact lower
              · exact lt_trans lower (before member listed)
          · next notLower =>
              refine List.pairwise_cons.2 ⟨fun member listed => ?_,
                inductionHypothesis restOrdered⟩
              obtain rfl | listed := mem_insertMember listed
              · exact lt_of_le_of_ne (not_lt.1 notLower) (Ne.symm differ)
              · exact before member listed

end Insertion

namespace Reader

/-! ## What readers yield -/

section Yields

variable {α β : Type} {Property : α → Prop}

/-- Whenever a reader succeeds, the value that it returns has a property. -/
def Yields (reader : Reader α) (Property : α → Prop) : Prop :=
  ∀ text value rest, reader text = .ok (value, rest) → Property value

theorem yields_pure {value : α} (holds : Property value) : Yields (pure value) Property := by
  intro text other rest read
  cases read
  exact holds

theorem yields_throw (fault : Fault) : Yields (throw fault) Property :=
  nofun

/-- What the first reader yields can be used by the one that goes on. -/
theorem Yields.bind
    {Other : β → Prop}
    {reader : Reader β}
    {next : β → Reader α}
    (first : Yields reader Other)
    (second : ∀ value, Other value → Yields (next value) Property) :
    Yields (reader >>= next) Property := by
  intro text result rest read
  change Except.bind (reader text) (fun outcome => next outcome.1 outcome.2) = _ at read
  cases outcome : reader text with
  | error fault =>
      rw [outcome] at read
      cases read
  | ok outcome' =>
      rw [outcome] at read
      exact second _ (first text _ _ outcome) _ _ _ read

/-- What a reader yields that goes on after another one, whatever that one returns. -/
theorem yields_bind
    {reader : Reader β}
    {next : β → Reader α}
    (second : ∀ value, Yields (next value) Property) :
    Yields (reader >>= next) Property := by
  have anything : Yields reader fun _ => True := fun _ _ _ _ => trivial
  exact anything.bind fun value _ => second value

/-- What a reader yields that may give up first. -/
theorem yields_unless
    {condition : Prop}
    [Decidable condition]
    {fault : Fault}
    {unreached : β → Reader α}
    {next : Reader α}
    (going : Yields next Property) :
    Yields (if condition then throw fault >>= unreached else next) Property := by
  split
  · exact nofun
  · exact going

/-- What a reader yields is had when it reads a whole text. -/
theorem Yields.runOn
    {reader : Reader α}
    {text : String}
    {value : α}
    (yields : Yields reader Property)
    (read : (reader.runOn text).toOption = some value) :
    Property value := by
  change ((reader text.toList).map Prod.fst).toOption = some value at read
  cases outcome : reader text.toList with
  | error fault =>
      rw [outcome] at read
      cases read
  | ok result =>
      rw [outcome] at read
      cases read
      exact yields _ _ _ outcome

end Yields

/-! ## Proper values -/

variable {fuel : Nat}

/-- All of some items are proper, and so are the values inside them. -/
def ItemsProper (items : List Json) : Prop := ∀ item ∈ items, item.Throughout IsProper

/-- Members stand in order, and their values are proper. -/
structure MembersProper (members : List (String × Json)) : Prop where
  ordered : InOrder members
  proper : ∀ member ∈ members, member.2.Throughout IsProper

theorem MembersProper.insertMember
    {members : List (String × Json)}
    {name : String}
    {member : Json}
    (proper : MembersProper members)
    (memberProper : member.Throughout IsProper) :
    MembersProper (insertMember name member members) where
  ordered := proper.ordered.insertMember
  proper := by
    intro other listed
    obtain rfl | listed := mem_insertMember listed
    · exact memberProper
    · exact proper.proper other listed

/-- A value is proper when its items and members are. -/
theorem yields_value
    (small : fuel ≤ UInt64.size)
    (items : ∀ depth, Yields (items fuel depth []) fun all =>
      ItemsProper all ∧ all.length ≤ fuel)
    (members : ∀ depth, Yields (members fuel depth []) MembersProper)
    (depth : Nat) :
    Yields (value (fuel + 1) depth) (Throughout IsProper) := by
  have leaf {node : Json} (proper : IsProper node) (childless : node.children = []) :
      node.Throughout IsProper :=
    throughout_iff.2 ⟨proper, by simp [childless]⟩
  rw [value]
  refine yields_bind fun character => ?_
  split
  · exact yields_bind fun _ => yields_bind fun _ => yields_pure (leaf trivial rfl)
  · exact yields_bind fun _ => yields_bind fun _ => yields_pure (leaf trivial rfl)
  · exact yields_bind fun _ => yields_bind fun _ => yields_pure (leaf trivial rfl)
  · exact yields_bind fun _ => yields_bind fun _ => yields_pure (leaf trivial rfl)
  · exact yields_bind fun _ => yields_bind fun _ => yields_pure (leaf trivial rfl)
  · refine yields_unless (yields_bind fun _ => (items (depth - 1)).bind fun all read => ?_)
    exact yields_pure (throughout_iff.2 ⟨read.2.trans small, read.1⟩)
  · refine yields_unless (yields_bind fun _ => (members (depth - 1)).bind fun all read => ?_)
    refine yields_pure (throughout_iff.2 ⟨read.ordered.nodup, fun child listed => ?_⟩)
    obtain ⟨member, among, rfl⟩ := List.mem_map.1 listed
    exact read.proper member among
  · split
    · exact yields_bind fun _ => yields_pure (leaf trivial rfl)
    · exact yields_throw _

/-- Every round of reading adds at most one proper item. -/
theorem yields_items
    {depth : Nat}
    {done : List Json}
    (value : Yields (value fuel depth) (Throughout IsProper))
    (items : ∀ all, ItemsProper all → Yields (items fuel depth all) fun read =>
      ItemsProper read ∧ read.length ≤ all.length + fuel)
    (proper : ItemsProper done) :
    Yields (Reader.items (fuel + 1) depth done) fun read =>
      ItemsProper read ∧ read.length ≤ done.length + (fuel + 1) := by
  have item : Yields (Reader.value fuel depth >>= fun item =>
      Reader.items fuel depth (item :: done)) fun read =>
        ItemsProper read ∧ read.length ≤ done.length + (fuel + 1) := by
    refine value.bind fun item itemProper text all rest read => ?_
    obtain ⟨allProper, short⟩ := items (item :: done)
      (List.forall_mem_cons.2 ⟨itemProper, proper⟩) text all rest read
    refine ⟨allProper, ?_⟩
    rw [List.length_cons] at short
    omega
  rw [Reader.items]
  refine yields_bind fun character => ?_
  split
  · refine yields_bind fun _ => yields_pure ⟨fun item listed => ?_, ?_⟩
    · exact proper item (List.mem_reverse.1 listed)
    · rw [List.length_reverse]
      exact Nat.le_add_right _ _
  · split
    · exact yields_unless (yields_bind fun _ => item)
    · exact item

/-- Every round of reading puts one proper member in its place. -/
theorem yields_members
    {depth : Nat}
    {done : List (String × Json)}
    (value : Yields (value fuel depth) (Throughout IsProper))
    (members : ∀ all, MembersProper all → Yields (members fuel depth all) MembersProper)
    (proper : MembersProper done) :
    Yields (Reader.members (fuel + 1) depth done) MembersProper := by
  have member : Yields (do
      if (← peekValue) ≠ '"' then throw .malformed
      skip
      let name ← string
      if (← peekValue) ≠ ':' then throw .malformed
      skip
      let member ← Reader.value fuel depth
      Reader.members fuel depth (insertMember name member done)) MembersProper :=
    yields_bind fun _ => yields_unless <| yields_bind fun _ => yields_bind fun _ =>
      yields_bind fun _ => yields_unless <| yields_bind fun _ =>
        value.bind fun _ memberProper => members _ (proper.insertMember memberProper)
  rw [Reader.members]
  refine yields_bind fun character => ?_
  split
  · exact yields_bind fun _ => yields_pure proper
  · split
    · exact yields_unless (yields_bind fun _ => member)
    · exact member

/-- Every value that is read in few enough rounds is proper, with all values inside it. -/
theorem yields_proper
    (small : fuel ≤ UInt64.size) :
    (∀ depth, Yields (value fuel depth) (Throughout IsProper)) ∧
      (∀ depth done, ItemsProper done → Yields (items fuel depth done) fun all =>
        ItemsProper all ∧ all.length ≤ done.length + fuel) ∧
      ∀ depth done, MembersProper done → Yields (members fuel depth done) MembersProper := by
  induction fuel with
  | zero => exact ⟨fun _ => nofun, fun _ _ _ => nofun, fun _ _ _ => nofun⟩
  | succ fuel inductionHypothesis =>
      obtain ⟨value, items, members⟩ := inductionHypothesis (Nat.le_of_succ_le small)
      refine ⟨yields_value (Nat.le_of_succ_le small) (fun depth => ?_) fun depth =>
          members depth [] ⟨List.Pairwise.nil, nofun⟩,
        fun depth _ => yields_items (value depth) (items depth),
        fun depth _ => yields_members (value depth) (members depth)⟩
      simpa using items depth [] nofun

end Reader

/-- A text that fits in memory holds a proper value: each of its objects lists its names
once. -/
theorem proper_of_ofText?
    {text : String}
    {value : Json}
    (short : text.length < 2 ^ 63)
    (read : ofText? text = some value) :
    value.Throughout IsProper := by
  have small : 2 * text.length + 2 ≤ UInt64.size := by
    rw [UInt64.size]
    omega
  have whole : Reader.Yields (do
      let value ← Reader.value (2 * text.length + 2) Reader.largestDepth
      Reader.finish
      return value) (Throughout IsProper) :=
    ((Reader.yields_proper small).1 _).bind fun _ proper =>
      Reader.yields_bind fun _ => Reader.yields_pure proper
  exact whole.runOn read

end Json
end FragmentCache
