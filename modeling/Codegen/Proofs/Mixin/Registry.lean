import Codegen.Mixin.Registry
import Codegen.Proofs.Distinct
import Mathlib.Data.Finset.Card

/-! What is registered after any calls is what the log of the registered members says, whether or not
the calls succeeded. -/

namespace Codegen

theorem findSome?_eq_find?_bind {α β : Type} (f : α → Option β) (items : List α) :
    items.findSome? f = (items.find? fun item => (f item).isSome).bind f := by
  induction items with
  | nil => rfl
  | cons item rest ih =>
      cases h : f item with
      | none => simp [h, ih]
      | some found => simp [h]

namespace Mixin

open Codegen.Model

/-! Calls and the log of the members that they register. -/

/-- A call that registers members. -/
inductive Call
  | register (kindName : String) (properties methods : Named)
  | mixin (document : Document)

/-- What a call makes of the registered members, and what it answers. -/
def Call.run (m : Model) (r : Registry) : Call → Registry × Except Failure (List Member)
  | register kindName properties methods => Mixin.register m r kindName properties methods
  | mixin document => Mixin.apply m r document

/-- The registered members after calls, each made whatever came of those before. -/
def registered (m : Model) (calls : List Call) : Registry :=
  calls.foldl (fun r call => (call.run m r).1) .empty

/-- What a registration goes through: properties, then methods. -/
def processed (properties methods : Named) : List (Bool × String × Value) :=
  properties.map (true, ·) ++ methods.map (false, ·)

def memberOf? (kind : EntityKind) : Bool × String × Value → Option Member
  | (isProperty, name, .function implementation) => some { kind, name, implementation, isProperty }
  | _ => none

/-- The members of a registration: those before the first implementation that is no function. -/
def registrationLog (kindName : String) (properties methods : Named) : List Member :=
  match EntityKind.ofName? kindName with
  | none => []
  | some kind =>
    (((processed properties methods).map (memberOf? kind)).takeWhile Option.isSome).reduceOption

def registrationFails (kindName : String) (properties methods : Named) : Bool :=
  (EntityKind.ofName? kindName).isNone ||
    (processed properties methods).any fun (_, _, implementation) => !implementation.isFunction

def knowsSections (sections : Sections) : Bool :=
  sections.all fun (name, _) => name ∈ sectionNames

/-- The members of a document, kind by kind up to the first whose registration fails. A kind with
sections of other names has none. -/
def documentLog : Document → List Member
  | [] => []
  | (kindName, sections) :: rest =>
    let properties := (sections.lookup "get").getD []
    let methods := (sections.lookup "call").getD []
    if knowsSections sections then
      registrationLog kindName properties methods ++
        if registrationFails kindName properties methods then [] else documentLog rest
    else []

def documentFails : Document → Bool
  | [] => false
  | (kindName, sections) :: rest =>
    !knowsSections sections || registrationFails kindName ((sections.lookup "get").getD [])
      ((sections.lookup "call").getD []) || documentFails rest

def Call.log : Call → List Member
  | register kindName properties methods => registrationLog kindName properties methods
  | mixin document => documentLog document

/-! Each call registers the members of its log one after another. -/

def Registry.insertAll (r : Registry) (members : List Member) : Registry :=
  members.foldl Registry.insert r

theorem Registry.insertAll_append (r : Registry) (first second : List Member) :
    r.insertAll (first ++ second) = (r.insertAll first).insertAll second :=
  List.foldl_append

theorem registerAll_fst (m : Model) (kind : EntityKind) (items : List (Bool × String × Value))
    (r : Registry) (done : List Member) :
    (registerAll m kind items r done).1 =
      r.insertAll ((items.map (memberOf? kind)).takeWhile Option.isSome).reduceOption := by
  induction items generalizing r done with
  | nil => rfl
  | cons item rest ih =>
      obtain ⟨isProperty, name, implementation⟩ := item
      cases implementation
      case function f => exact ih _ _
      all_goals rfl

theorem registerAll_snd (m : Model) (kind : EntityKind) (items : List (Bool × String × Value))
    (r : Registry) (done : List Member) :
    (registerAll m kind items r done).2.toOption =
      if items.any fun (_, _, implementation) => !implementation.isFunction then none
      else some (done.reverse ++
        ((items.map (memberOf? kind)).takeWhile Option.isSome).reduceOption) := by
  induction items generalizing r done with
  | nil => exact congrArg some (List.append_nil _).symm
  | cons item rest ih =>
      obtain ⟨isProperty, name, implementation⟩ := item
      cases implementation
      case function f =>
        rw [registerAll, ih, List.reverse_cons, List.append_assoc]
        rfl
      all_goals rfl

theorem register_fst (m : Model) (r : Registry) (kindName : String) (properties methods : Named) :
    (register m r kindName properties methods).1 =
      r.insertAll (registrationLog kindName properties methods) := by
  rw [register, registrationLog]
  cases EntityKind.ofName? kindName with
  | none => rfl
  | some kind => exact registerAll_fst m kind _ r []

theorem register_snd (m : Model) (r : Registry) (kindName : String) (properties methods : Named) :
    (register m r kindName properties methods).2.toOption =
      if registrationFails kindName properties methods then none
      else some (registrationLog kindName properties methods) := by
  rw [register, registrationFails, registrationLog]
  cases EntityKind.ofName? kindName with
  | none => rfl
  | some kind => exact registerAll_snd m kind _ r []

theorem applyFrom_eq (m : Model) (document : Document) (r : Registry) (done : List Member) :
    (applyFrom m document r done).1 = r.insertAll (documentLog document) ∧
    (applyFrom m document r done).2.toOption =
      if documentFails document then none else some (done ++ documentLog document) := by
  induction document generalizing r done with
  | nil => exact ⟨rfl, by simp [applyFrom, documentLog, documentFails, Except.toOption]⟩
  | cons entry rest ih =>
      obtain ⟨kindName, sections⟩ := entry
      have hknown : ((sections.map (·.1)).filter (· ∉ sectionNames) = []) ↔
          knowsSections sections = true := by
        simp [List.filter_eq_nil_iff, knowsSections]
      rw [applyFrom, documentLog, documentFails]
      by_cases hsections : knowsSections sections = true
      · rw [if_pos (hknown.mpr hsections), if_pos hsections, hsections]
        generalize (sections.lookup "get").getD [] = properties
        generalize (sections.lookup "call").getD [] = methods
        have hregistry := register_fst m r kindName properties methods
        have houtcome := register_snd m r kindName properties methods
        rcases hrun : register m r kindName properties methods with ⟨registry, outcome⟩
        rw [hrun] at hregistry houtcome
        obtain rfl : registry = _ := hregistry
        cases hfails : registrationFails kindName properties methods with
        | true =>
            rw [hfails] at houtcome
            cases outcome with
            | error failure => exact ⟨by rw [if_pos rfl, List.append_nil], rfl⟩
            | ok members => cases houtcome
        | false =>
            rw [hfails] at houtcome
            cases outcome with
            | error failure => cases houtcome
            | ok members =>
                obtain rfl : members = _ := Option.some.inj houtcome
                obtain ⟨hfst, hsnd⟩ := ih (r.insertAll (registrationLog kindName properties methods))
                  (done ++ registrationLog kindName properties methods)
                rw [if_neg Bool.false_ne_true, Registry.insertAll_append, ← List.append_assoc]
                exact ⟨hfst, hsnd⟩
      · rw [if_neg (hsections ∘ hknown.mp), if_neg hsections, Bool.eq_false_of_not_eq_true hsections]
        exact ⟨rfl, rfl⟩

theorem Call.run_fst (m : Model) (r : Registry) (call : Call) :
    (call.run m r).1 = r.insertAll call.log := by
  cases call with
  | register kindName properties methods => exact register_fst m r kindName properties methods
  | mixin document => exact (applyFrom_eq m document r []).1

theorem registered_eq (m : Model) (calls : List Call) :
    registered m calls = Registry.empty.insertAll (calls.flatMap Call.log) := by
  induction calls using List.reverseRecOn with
  | nil => rfl
  | append_singleton calls call ih =>
      rw [registered, List.foldl_append, List.foldl_cons, List.foldl_nil, Call.run_fst,
        List.flatMap_append, List.flatMap_singleton, Registry.insertAll_append, ← ih]
      rfl

/-! What is registered, as the log tells it. -/

def Member.key (member : Member) : EntityKind × String := (member.kind, member.name)

def nameWithin (kind : EntityKind) (key : EntityKind × String) : Option String :=
  if key.1 = kind then some key.2 else none

theorem map_name_filter (kind : EntityKind) (members : List Member) :
    (members.filter (·.kind = kind)).map Member.name =
      (members.map Member.key).filterMap (nameWithin kind) := by
  induction members with
  | nil => rfl
  | cons member rest ih =>
      rw [List.map_cons, List.filterMap_cons, ← ih]
      by_cases hkind : member.kind = kind
      · simp [nameWithin, Member.key, hkind]
      · simp [nameWithin, Member.key, hkind]

/-- The last member of a log under a kind and a name. -/
def lastLogged (log : List Member) (kind : EntityKind) (name : String) : Option Member :=
  (log.filter fun member => member.key = (kind, name)).getLast?

theorem lastLogged_concat (log : List Member) (member : Member) (kind : EntityKind) (name : String) :
    lastLogged (log ++ [member]) kind name =
      if member.key = (kind, name) then some member else lastLogged log kind name := by
  rw [lastLogged, List.filter_append]
  by_cases h : member.key = (kind, name)
  · simp [h]
  · simp [h, lastLogged]

theorem lastLogged_isSome_iff {log : List Member} {kind : EntityKind} {name : String} :
    (lastLogged log kind name).isSome = true ↔ (kind, name) ∈ log.map Member.key := by
  rw [lastLogged, List.getLast?_isSome, ← List.length_pos_iff, ← List.countP_eq_length_filter,
    List.countP_pos_iff, List.mem_map]
  simp only [decide_eq_true_eq]

namespace Registry

theorem get?_eq (r : Registry) (kind : EntityKind) (name : String) :
    r.get? kind name = r.entries.find? fun member => member.key = (kind, name) := by
  simp only [get?, Member.key, Prod.mk.injEq]

theorem get?_isSome_iff {r : Registry} {kind : EntityKind} {name : String} :
    (r.get? kind name).isSome = true ↔ (kind, name) ∈ r.entries.map Member.key := by
  rw [get?_eq, List.find?_isSome, List.mem_map]
  simp only [decide_eq_true_eq]

theorem insert_present {r : Registry} {member : Member}
    (h : member.key ∈ r.entries.map Member.key) :
    r.insert member =
      ⟨r.entries.map fun other => if other.key = member.key then member else other⟩ := by
  rw [insert, if_pos (get?_isSome_iff.mpr h)]
  simp only [Member.key, Prod.mk.injEq]

theorem insert_absent {r : Registry} {member : Member}
    (h : member.key ∉ r.entries.map Member.key) : r.insert member = ⟨r.entries ++ [member]⟩ := by
  rw [insert, if_neg (h ∘ get?_isSome_iff.mp)]

theorem key_of_get? {r : Registry} {kind : EntityKind} {name : String} {member : Member}
    (h : r.get? kind name = some member) : member.key = (kind, name) := by
  have htest := List.find?_some (r.get?_eq kind name ▸ h)
  exact of_decide_eq_true htest

theorem get?_insert (r : Registry) (member : Member) (kind : EntityKind) (name : String) :
    (r.insert member).get? kind name =
      if member.key = (kind, name) then some member else r.get? kind name := by
  by_cases hpresent : member.key ∈ r.entries.map Member.key
  · -- Looking for a key finds the same place as before, and only that of the member has changed.
    have hplace : (r.insert member).get? kind name = (r.get? kind name).map fun other =>
        if other.key = member.key then member else other := by
      rw [insert_present hpresent, get?_eq, get?_eq, List.find?_map]
      congr 2
      funext other
      by_cases hother : other.key = member.key
      · simp [hother]
      · simp [hother]
    rw [hplace]
    by_cases hkey : member.key = (kind, name)
    · rw [hkey] at hpresent
      obtain ⟨other, hother⟩ := Option.isSome_iff_exists.mp (get?_isSome_iff.mpr hpresent)
      rw [if_pos hkey, hother, Option.map_some, if_pos ((key_of_get? hother).trans hkey.symm)]
    · rw [if_neg hkey]
      cases hfound : r.get? kind name with
      | none => rfl
      | some other => rw [Option.map_some, if_neg (key_of_get? hfound ▸ Ne.symm hkey)]
  · rw [insert_absent hpresent, get?_eq, get?_eq, List.find?_append, ← get?_eq]
    by_cases hkey : member.key = (kind, name)
    · rw [hkey, ← get?_isSome_iff, Option.not_isSome_iff_eq_none] at hpresent
      simp [hkey, hpresent]
    · simp [hkey]

/-- The registry holds what a log says: the members have their keys in the order of the log's first
ones, and each is the last of its key. -/
structure Reflects (r : Registry) (log : List Member) : Prop where
  keys : r.entries.map Member.key = (log.map Member.key).eraseDups
  last : ∀ kind name, r.get? kind name = lastLogged log kind name

theorem Reflects.insert {r : Registry} {log : List Member} (h : r.Reflects log) (member : Member) :
    (r.insert member).Reflects (log ++ [member]) := by
  constructor
  · have hmem : member.key ∈ r.entries.map Member.key ↔ member.key ∈ log.map Member.key := by
      rw [h.keys, List.mem_eraseDups]
    rw [List.map_append, List.map_singleton, eraseDups_concat, ← h.keys]
    by_cases hpresent : member.key ∈ r.entries.map Member.key
    · rw [if_pos (hmem.mp hpresent), insert_present hpresent, List.map_map]
      refine List.map_congr_left fun other _ => ?_
      by_cases hother : other.key = member.key
      · rw [Function.comp_apply, if_pos hother, hother]
      · rw [Function.comp_apply, if_neg hother]
    · rw [if_neg (hpresent ∘ hmem.mpr), insert_absent hpresent, List.map_append, List.map_singleton]
  · intro kind name
    rw [get?_insert, lastLogged_concat, h.last]

theorem reflects_insertAll (log : List Member) : (empty.insertAll log).Reflects log := by
  induction log using List.reverseRecOn with
  | nil => exact ⟨rfl, fun _ _ => rfl⟩
  | append_singleton log member ih =>
      rw [insertAll_append]
      exact ih.insert member

namespace Reflects

variable {r : Registry} {log : List Member}

theorem size_eq (h : r.Reflects log) : r.size = (log.map Member.key).toFinset.card := by
  have hdistinct : (log.map Member.key).eraseDups.toFinset = (log.map Member.key).toFinset := by
    ext key
    simp only [List.mem_toFinset, List.mem_eraseDups]
  rw [← hdistinct, List.toFinset_card_of_nodup (eraseDups_nodup _), ← h.keys, List.length_map]
  rfl

theorem lookup?_eq (h : r.Reflects log) (type : EntityType) (name : String) :
    r.lookup? type name =
      (type.kinds.find? fun kind => (kind, name) ∈ log.map Member.key).bind fun kind =>
        lastLogged log kind name := by
  have hlast : (fun kind => r.get? kind name) = fun kind => lastLogged log kind name :=
    funext fun kind => h.last kind name
  rw [lookup?, hlast, findSome?_eq_find?_bind]
  congr 2
  funext kind
  rw [Bool.eq_iff_iff, lastLogged_isSome_iff, decide_eq_true_eq]

theorem get?_of_mem (h : r.Reflects log) {member : Member} (hmem : member ∈ r.entries) :
    r.get? member.kind member.name = some member := by
  have hnodup : (r.entries.map Member.key).Nodup := h.keys ▸ eraseDups_nodup _
  obtain ⟨other, hother⟩ :=
    Option.isSome_iff_exists.mp (get?_isSome_iff.mpr (List.mem_map_of_mem (f := Member.key) hmem))
  have hplace : other ∈ r.entries := List.mem_of_find?_eq_some (get?_eq r _ _ ▸ hother)
  exact hother.trans
    (congrArg some (List.inj_on_of_nodup_map hnodup hplace hmem (key_of_get? hother)))

theorem map_members (h : r.Reflects log) (kind : EntityKind) :
    (r.members kind).map Member.name =
      ((log.filter (·.kind = kind)).map Member.name).eraseDups := by
  -- Within one kind the names tell the keys apart.
  have hpick : ∀ first second picked, nameWithin kind first = some picked →
      nameWithin kind second = some picked → first = second := by
    rintro ⟨k₁, n₁⟩ ⟨k₂, n₂⟩ picked h₁ h₂
    simp only [nameWithin, Option.ite_none_right_eq_some, Option.some.injEq] at h₁ h₂
    rw [h₁.1, h₂.1, h₁.2, h₂.2]
  rw [members, map_name_filter, map_name_filter, h.keys, eraseDups_filterMap hpick]

theorem members_eq (h : r.Reflects log) (kind : EntityKind) :
    r.members kind =
      (((log.filter (·.kind = kind)).map Member.name).eraseDups).filterMap
        (lastLogged log kind) := by
  have hlast : ∀ member ∈ r.members kind, lastLogged log kind member.name = some member := by
    intro member hmember
    obtain ⟨hmem, hkind⟩ := List.mem_filter.mp hmember
    obtain rfl : member.kind = kind := of_decide_eq_true hkind
    rw [← h.last, h.get?_of_mem hmem]
  rw [← h.map_members, List.filterMap_map]
  exact ((List.filterMap_congr hlast).trans List.filterMap_some).symm

end Reflects

end Registry

/-- After any calls, failed ones among them, the registered members are those of the log: an entity
shows the last logged member of its most specific kind that has one of the name; the members of a
kind stand in the order of their first registration, each the last one of its name; there are as
many as distinct kinds and names in the log, and never fewer after more calls. -/
theorem registered_reflects_log (m : Model) (calls : List Call) :
    let r := registered m calls
    let log := calls.flatMap Call.log
    (∀ type name, r.lookup? type name =
      (type.kinds.find? fun kind => (kind, name) ∈ log.map Member.key).bind fun kind =>
        lastLogged log kind name) ∧
    (∀ kind,
      (r.members kind).map Member.name =
        ((log.filter (·.kind = kind)).map Member.name).eraseDups ∧
      r.members kind = ((r.members kind).map Member.name).filterMap (lastLogged log kind)) ∧
    r.size = (log.map Member.key).toFinset.card ∧
    ∀ later, r.size ≤ (registered m (calls ++ later)).size := by
  have hreflects : ∀ calls, (registered m calls).Reflects (calls.flatMap Call.log) := fun calls =>
    registered_eq m calls ▸ Registry.reflects_insertAll _
  intro r log
  have hr : r.Reflects log := hreflects calls
  refine ⟨hr.lookup?_eq, fun kind => ⟨hr.map_members kind, ?_⟩, hr.size_eq, fun later => ?_⟩
  · rw [hr.map_members]
    exact hr.members_eq kind
  · rw [hr.size_eq, (hreflects (calls ++ later)).size_eq, List.flatMap_append, List.map_append,
      List.toFinset_append]
    exact Finset.card_le_card Finset.subset_union_left

end Mixin

end Codegen
