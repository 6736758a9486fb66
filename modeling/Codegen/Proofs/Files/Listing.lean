import Codegen.Files.Search
import Codegen.Proofs.Files.Name
import Codegen.Proofs.Files.Reach
import Codegen.Proofs.Stateful
import Mathlib.Data.List.Sort
import Mathlib.Data.String.Basic

/-! What is listed in a directory: the files among its entries whose names have an ending, in the order of their
names. A pattern that is a star before an ending fits the names with it. -/

namespace Codegen

theorem Text.hasEnd_iff {ending text : String} :
    hasEnd ending text = true ↔ ending.toList <:+ text.toList := by
  rw [hasEnd, Option.isSome_iff_exists, ← List.reverse_prefix]
  constructor
  · rintro ⟨rest, hrest⟩
    exact ⟨rest, (dropStart?_eq_some_iff.mp hrest).symm⟩
  · rintro ⟨rest, hrest⟩
    exact ⟨rest, dropStart?_eq_some_iff.mpr hrest.symm⟩

namespace Files

/-! ### Patterns -/

/-- An ending of names without a character that has a meaning in patterns. -/
def IsPlainEnding (ending : String) : Prop := ∀ c ∈ ending.toList, c ≠ '*' ∧ c ≠ '?' ∧ c ≠ '[' ∧ c ≠ '/'

instance (ending : String) : Decidable (IsPlainEnding ending) :=
  List.decidableBAll _ _

namespace NamePattern

theorem ofList_plain {text : List Char} (h : ∀ c ∈ text, c ≠ '*' ∧ c ≠ '?' ∧ c ≠ '[' ∧ c ≠ '/') :
    ofList text = text.map .exactly := by
  induction text with
  | nil => rw [ofList, List.map_nil]
  | cons c rest ih =>
      obtain ⟨⟨hstar, hmark, hbracket, -⟩, hrest⟩ := List.forall_mem_cons.mp h
      rw [ofList, ih hrest, List.map_cons]
      · exact hstar
      · exact hmark
      · exact hbracket

theorem matchesList_exactly {ending text : List Char} :
    matchesList (ending.map .exactly) text = true ↔ text = ending := by
  induction ending generalizing text with
  | nil => rw [List.map_nil, matchesList, List.isEmpty_iff]
  | cons d rest ih =>
      cases text with
      | nil => simp [matchesList]
      | cons c cs => rw [List.map_cons, matchesList, Bool.and_eq_true, beq_iff_eq, ih, List.cons.injEq]

theorem matchesList_anyText {pieces : NamePattern} {text : List Char} :
    matchesList (.anyText :: pieces) text = true ↔ ∃ rest, rest <:+ text ∧ matchesList pieces rest = true := by
  induction text with
  | nil =>
      rw [matchesList]
      constructor
      · exact fun h => ⟨[], List.suffix_rfl, h⟩
      · rintro ⟨rest, hrest, h⟩
        rwa [List.suffix_nil.mp hrest] at h
  | cons c cs ih =>
      rw [matchesList, Bool.or_eq_true, ih]
      constructor
      · rintro (h | ⟨rest, hrest, h⟩)
        · exact ⟨_, List.suffix_rfl, h⟩
        · exact ⟨rest, hrest.trans (List.suffix_cons c cs), h⟩
      · rintro ⟨rest, hrest, h⟩
        rcases List.suffix_cons_iff.mp hrest with rfl | hrest
        · exact .inl h
        · exact .inr ⟨rest, hrest, h⟩

theorem fits_star {ending name : String} (hplain : IsPlainEnding ending) :
    (ofString ("*" ++ ending)).fits name = true ↔ Text.hasEnd ending name = true := by
  have hpattern : ofString ("*" ++ ending) = .anyText :: ending.toList.map .exactly := by
    have hlist : ("*" ++ ending).toList = '*' :: ending.toList := by simp
    rw [ofString, hlist, ofList, ofList_plain hplain]
  rw [fits, hpattern, matchesList_anyText, Text.hasEnd_iff]
  constructor
  · rintro ⟨rest, hrest, h⟩
    rwa [matchesList_exactly.mp h] at hrest
  · exact fun h => ⟨_, h, matchesList_exactly.mpr rfl⟩

end NamePattern

theorem not_contains_stars {ending : String} (hplain : IsPlainEnding ending) :
    Text.contains "**" ("*" ++ ending) = false := by
  rw [Text.contains, Option.isSome_eq_false_iff, Option.isNone_iff_eq_none]
  rw [Option.eq_none_iff_forall_ne_some]
  rintro ⟨before, after⟩ hcut
  have hcount := congrArg (List.count '*') (Text.eq_of_cutList? hcut)
  have hending : ending.toList.count '*' = 0 := List.count_eq_zero.mpr fun h => (hplain _ h).1 rfl
  have hone : ("*" : String).toList.count '*' = 1 := rfl
  have htwo : ("**" : String).toList.count '*' = 2 := rfl
  rw [String.toList_append, List.count_append, List.count_append, List.count_append] at hcount
  omega

theorem SearchStep.ofPattern_star {ending : String} (hplain : IsPlainEnding ending) :
    ofPattern ("*" ++ ending) = .ok [.matching (.ofString ("*" ++ ending))] := by
  have hlist : ("*" ++ ending).toList = '*' :: ending.toList := by simp
  have hslash : '/' ∉ ("*" ++ ending).toList := by
    rw [hlist, List.mem_cons]
    rintro (h | h)
    · exact absurd h (by decide)
    · exact (hplain _ h).2.2.2 rfl
  have hne : ∀ other : String, other.toList.head? ≠ some '*' → "*" ++ ending ≠ other := by
    intro other hother heq
    rw [← heq, hlist] at hother
    exact hother rfl
  have hname : Path.IsName ("*" ++ ending) := ⟨hslash, hne _ (by decide), hne _ (by decide)⟩
  have hstars : "*" ++ ending ≠ "**" := by
    intro heq
    have hcontains := not_contains_stars hplain
    rw [heq] at hcontains
    exact absurd hcontains (by decide)
  have hsegment : ofSegment ("*" ++ ending) = .ok (.matching (.ofString ("*" ++ ending))) := by
    rw [ofSegment, if_neg hstars, if_neg (hne _ (by decide)), not_contains_stars hplain, if_neg Bool.false_ne_true,
      NamePattern.isPattern, hlist]
    rfl
  have hend : Text.hasEnd "/" ("*" ++ ending) = false := by
    rw [Bool.eq_false_iff, Ne, Text.hasEnd_iff]
    exact fun hsuffix => hslash (hsuffix.subset (List.mem_singleton_self _))
  rw [ofPattern, Path.segments_self hname, hend]
  simp only [List.mapM_cons, List.mapM_nil, hsegment]
  rfl

/-! ### Order -/

namespace Path

/-- The path of a name in the directory. -/
def inside (d : Path) (name : String) : Path := ⟨d.root, d.parts ++ [name]⟩

@[simp] theorem name_inside (d : Path) (name : String) : (d.inside name).name = name := by
  simp [inside, Path.name]

theorem inside_injective (d : Path) : Function.Injective d.inside := by
  intro first second h
  rw [← d.name_inside first, h, name_inside]

theorem namesLe_append_left (above first second : List String) :
    namesLe (above ++ first) (above ++ second) = namesLe first second := by
  induction above with
  | nil => rfl
  | cons name above ih =>
      rw [List.cons_append, List.cons_append, namesLe, ih, decide_eq_false (String.lt_irrefl name), beq_self_eq_true]
      rfl

theorem le_inside {d : Path} {first second : String} :
    (d.inside first).le (d.inside second) = true ↔ first ≤ second := by
  have hnames : ∀ name, (d.inside name).names = d.names ++ [name] := fun name =>
    (List.append_assoc _ _ _).symm
  rw [le, hnames, hnames, namesLe_append_left, namesLe, namesLe, Bool.and_true, Bool.or_eq_true, decide_eq_true_iff,
    beq_iff_eq, le_iff_lt_or_eq]

theorem sorted_eq_insertionSort (paths : List Path) :
    sorted paths = paths.insertionSort fun p q => p.le q = true := by
  have hinsert : ∀ (path : Path) (rest : List Path),
      insertSorted path rest = rest.orderedInsert (fun p q => p.le q = true) path := by
    intro path rest
    induction rest with
    | nil => rfl
    | cons q rest ih => rw [insertSorted, ih, List.orderedInsert]
  induction paths with
  | nil => rfl
  | cons path rest ih =>
      rw [List.insertionSort_cons, ← ih, ← hinsert]
      rfl

theorem mem_sorted {path : Path} {paths : List Path} : path ∈ sorted paths ↔ path ∈ paths := by
  rw [sorted_eq_insertionSort, List.mem_insertionSort]

theorem sorted_inside (d : Path) (names : List String) :
    sorted (names.map d.inside) = (names.insertionSort (· ≤ ·)).map d.inside := by
  rw [sorted_eq_insertionSort, List.map_insertionSort (· ≤ ·) (fun p q : Path => p.le q = true) d.inside names]
  exact fun _ _ _ _ => le_inside.symm

theorem pairwise_sorted_names {names : List String} (h : names.Nodup) :
    (names.insertionSort (· ≤ ·)).Pairwise (· < ·) := by
  have hnodup : (names.insertionSort (· ≤ ·)).Nodup := (List.perm_insertionSort _ names).nodup_iff.mpr h
  exact ((List.pairwise_insertionSort (· ≤ ·) names).and hnodup).imp fun hpair => lt_of_le_of_ne hpair.1 hpair.2

end Path

/-! ### Entries -/

namespace Tree

variable {α : Type} {tree : Tree α} {cwd : Place} {d : Path} {name : String}

/-- A tree as a file system has it: nothing stands twice at a place, and everything stands in a directory. -/
structure Proper (tree : Tree α) : Prop where
  nodup : tree.places.Nodup
  within : ∀ place ∈ tree.places, tree.get? place.dropLast = some .directory

def nameIn? (directory place : Place) : Option String :=
  if place ≠ [] ∧ place.dropLast = directory then place.getLast? else none

theorem namesIn_eq (tree : Tree α) (directory : Place) :
    tree.namesIn directory = tree.places.filterMap (nameIn? directory) := by
  rw [places, List.filterMap_map]
  rfl

theorem nameIn?_eq_some_iff {directory place : Place} :
    nameIn? directory place = some name ↔ place = directory ++ [name] := by
  rw [nameIn?]
  constructor
  · intro h
    split at h
    · rename_i hin
      obtain ⟨hne, rfl⟩ := hin
      rw [List.getLast?_eq_some_getLast hne, Option.some.injEq] at h
      rw [← h, List.dropLast_append_getLast hne]
    · cases h
  · rintro rfl
    rw [if_pos ⟨List.append_ne_nil_of_right_ne_nil _ (List.cons_ne_nil _ _), List.dropLast_concat⟩,
      List.getLast?_concat]

theorem mem_namesIn_iff {place : Place} : name ∈ tree.namesIn place ↔ tree.get? (place ++ [name]) ≠ none := by
  have hne : place ++ [name] ≠ [] := List.append_ne_nil_of_right_ne_nil _ (List.cons_ne_nil _ _)
  rw [namesIn_eq, List.mem_filterMap]
  constructor
  · rintro ⟨found, hfound, hname⟩
    rw [nameIn?_eq_some_iff] at hname
    exact get?_ne_none_of_mem (hname ▸ hfound)
  · exact fun h => ⟨_, mem_places_of_get? hne h, nameIn?_eq_some_iff.mpr rfl⟩

theorem Proper.nodup_namesIn (h : tree.Proper) (place : Place) : (tree.namesIn place).Nodup := by
  rw [namesIn_eq]
  refine h.nodup.filterMap fun first second name hfirst hsecond => ?_
  rw [nameIn?_eq_some_iff.mp hfirst, nameIn?_eq_some_iff.mp hsecond]

theorem Proper.directory_dropLast (h : tree.Proper) {place : Place} (hplace : tree.get? place ≠ none) :
    tree.get? place.dropLast = some .directory := by
  by_cases hroot : place = []
  · rw [hroot]
    exact tree.get?_nil
  · exact h.within place (mem_places_of_get? hroot hplace)

def Inside (tree : Tree α) (cwd : Place) (d : Path) (name : String) : Prop :=
  ∃ place, tree.locate cwd d = .ok ⟨place, some .directory⟩ ∧ tree.get? (place ++ [name]) ≠ none

theorem mem_namesOf_iff : name ∈ tree.namesOf cwd d ↔ tree.Inside cwd d name := by
  rw [namesOf, Inside]
  split
  · rename_i place hplace
    rw [mem_namesIn_iff]
    constructor
    · exact fun h => ⟨place, hplace, h⟩
    · rintro ⟨other, hother, h⟩
      rw [hplace] at hother
      cases hother
      exact h
  · rename_i hnot
    constructor
    · exact fun h => absurd h List.not_mem_nil
    · rintro ⟨place, hplace, -⟩
      exact absurd hplace (hnot place)

theorem Proper.nodup_namesOf (h : tree.Proper) (cwd : Place) (d : Path) : (tree.namesOf cwd d).Nodup := by
  rw [namesOf]
  split
  · exact h.nodup_namesIn _
  · exact List.nodup_nil

theorem Leads.walkWith_free {jump jump' : Place → List String → Except Refusal (Target α)}
    {at_ place : Place} {names : List String} {target : Target α} (h : tree.Leads true jump at_ names target)
    (htarget : target = ⟨place, some .directory⟩) {outcome : Except Refusal (Target α)}
    (houtcome : ∀ jump, tree.walkWith true jump place [name] = outcome)
    (hjump : ∀ at_ names, jump at_ names = .ok target → jump' at_ (names ++ [name]) = outcome) :
    tree.walkWith true jump' at_ (names ++ [name]) = outcome := by
  induction h with
  | here at_ =>
      obtain ⟨rfl, -⟩ := Target.mk.inj htarget
      exact houtcome jump'
  | up hrest ih =>
      rw [List.cons_append, Tree.walkWith, if_pos rfl]
      exact ih htarget hjump
  | free hname hlong hnone => cases htarget
  | file hname hlong hfile => cases htarget
  | into hname hlong hdirectory hrest ih =>
      simp only [List.cons_append, Tree.walkWith, hname, hlong, hdirectory, if_false]
      exact ih htarget hjump
  | link hname hlong hlink hfollow => cases hfollow
  | through hname hlong hlink hlast hfound =>
      simp only [List.cons_append, Tree.walkWith, hname, hlong, hlink, if_false]
      rw [if_neg fun h => Bool.noConfusion h.2, ← List.append_assoc]
      exact hjump _ _ hfound

theorem walk_free {links : Nat} {at_ place : Place} {names : List String}
    (h : tree.walk true links at_ names = .ok ⟨place, some .directory⟩) {outcome : Except Refusal (Target α)}
    (houtcome : ∀ jump, tree.walkWith true jump place [name] = outcome) :
    tree.walk true links at_ (names ++ [name]) = outcome := by
  induction links generalizing at_ names with
  | zero => exact (leads_of_walkWith h).walkWith_free rfl houtcome fun _ _ hjump => by cases hjump
  | succ links ih => exact (leads_of_walkWith h).walkWith_free rfl houtcome fun _ _ hjump => ih hjump

theorem isFile?_eq_ok_true_iff {path : Path} : tree.isFile? cwd path = .ok true ↔
    ∃ target content, tree.locate cwd path = .ok target ∧ target.found? = some (.file content) := by
  rw [isFile?, stat?]
  cases tree.locate cwd path with
  | error cause =>
      dsimp only
      split <;> simp [Except.map]
  | ok target =>
      obtain ⟨place, found?⟩ := target
      rcases found? with _ | (_ | _ | _) <;> simp [Except.map]

theorem walkWith_free {place : Place} (hup : tree.get? place.dropLast = some .directory)
    (hnone : tree.get? (place ++ [name]) = none) :
    ∃ outcome : Except Refusal (Target α), (∀ jump, tree.walkWith true jump place [name] = outcome) ∧
      ∀ target content, outcome = .ok target → target.found? ≠ some (.file content) := by
  by_cases hname : name = ".."
  · refine ⟨.ok ⟨place.dropLast, some .directory⟩, fun jump => ?_, fun target content htarget hfile => ?_⟩
    · rw [walkWith, if_pos hname, walkWith, hup]
    · cases htarget
      cases hfile
  · refine ⟨if name.utf8ByteSize > nameLimit then .error .nameTooLong else .ok ⟨place ++ [name], none⟩,
      fun jump => ?_, fun target content htarget hfile => ?_⟩
    · rw [walkWith, if_neg hname, hnone]
      rfl
    · split at htarget
      · cases htarget
      · cases htarget
        cases hfile

theorem Proper.isFile?_free (h : tree.Proper) (hdirectory : tree.isDirectory? cwd d = .ok true)
    (hfree : ¬ tree.Inside cwd d name) : tree.isFile? cwd (d.inside name) ≠ .ok true := by
  obtain ⟨place, hplace⟩ := isDirectory?_eq_ok_true_iff.mp hdirectory
  have hfound := locate_found? hplace
  have hnone : tree.get? (place ++ [name]) = none := by
    by_contra hthere
    exact hfree ⟨place, hplace, hthere⟩
  have hup : tree.get? place.dropLast = some .directory :=
    h.directory_dropLast fun hnone => by cases hfound.trans hnone
  obtain ⟨outcome, houtcome, hnofile⟩ := walkWith_free hup hnone
  have hwalk := walk_free (walk_of_locate hplace) houtcome
  rw [Ne, isFile?_eq_ok_true_iff]
  rintro ⟨target, content, htarget, hfile⟩
  exact hnofile target content (hwalk.symm.trans (walk_of_locate htarget)) hfile

/-! What is found does not depend on the order in which the entries were created. -/

def SameEntries (tree other : Tree α) : Prop := ∀ place, other.get? place = tree.get? place

namespace SameEntries

variable {other : Tree α} (h : SameEntries tree other)

include h

theorem walkWith (follow : Bool) (jump : Place → List String → Except Refusal (Target α)) (at_ : Place)
    (names : List String) : other.walkWith follow jump at_ names = tree.walkWith follow jump at_ names := by
  induction names generalizing at_ with
  | nil => rw [Tree.walkWith, Tree.walkWith, h]
  | cons name rest ih => rw [Tree.walkWith, Tree.walkWith, h, ih, ih]

theorem walk (follow : Bool) (links : Nat) (at_ : Place) (names : List String) :
    other.walk follow links at_ names = tree.walk follow links at_ names := by
  induction links generalizing at_ names with
  | zero => exact h.walkWith _ _ _ _
  | succ links ih =>
      have hjump : other.walk follow links = tree.walk follow links :=
        funext fun at_ => funext fun names => ih at_ names
      rw [Tree.walk, Tree.walk, hjump, h.walkWith]

theorem locate (cwd : Place) (path : Path) (follow : Bool) :
    other.locate cwd path follow = tree.locate cwd path follow := by
  rw [Tree.locate, Tree.locate, h.walk]

theorem stat? (cwd : Place) (path : Path) : other.stat? cwd path = tree.stat? cwd path := by
  rw [Tree.stat?, Tree.stat?, h.locate]

theorem inside (cwd : Place) (d : Path) (name : String) : other.Inside cwd d name ↔ tree.Inside cwd d name := by
  rw [Inside, Inside]
  simp only [h.locate, h _]

end SameEntries

theorem Proper.sameEntries_of_perm {other : Tree α} (h : tree.Proper) (hperm : tree.entries.Perm other.entries) :
    SameEntries tree other := by
  intro place
  have hkeys : (other.entries.map (·.1)).Nodup := (hperm.map _).nodup_iff.mp h.nodup
  rw [get?, get?]
  split
  · rfl
  · cases hfound : tree.entries.lookup place with
    | none =>
        rw [List.lookup_eq_none_iff] at hfound ⊢
        exact fun entry hentry => hfound entry (hperm.mem_iff.mpr hentry)
    | some entry =>
        obtain ⟨before, rest, hsplit, -⟩ := List.lookup_eq_some_iff.mp hfound
        refine Table.lookup_of_mem hkeys (hperm.mem_iff.mp ?_)
        rw [hsplit]
        exact List.mem_append_right _ List.mem_cons_self

theorem Proper.of_perm {other : Tree α} (h : tree.Proper) (hperm : tree.entries.Perm other.entries) :
    other.Proper where
  nodup := (hperm.map _).nodup_iff.mp h.nodup
  within place hplace := by
    rw [h.sameEntries_of_perm hperm]
    exact h.within place ((hperm.map _).mem_iff.mpr hplace)

end Tree

end Files

end Codegen
