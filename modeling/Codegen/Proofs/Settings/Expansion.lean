import Codegen.Proofs.Settings.Reset
import Codegen.Proofs.Settings.Substitution

/-! What becomes of a value whose texts refer to variables, and when reading a configuration gets that far: a
variable that is not found is written to the log, which does not take every name. -/

namespace Codegen

theorem Value.inside_induction {P : Value → Prop} (list : ∀ items, (∀ v ∈ items, P v) → P (.list items))
    (map : ∀ entries, (∀ entry ∈ entries, P entry.2) → P (.map entries))
    (leaf : ∀ v, (∀ items, v ≠ .list items) → (∀ entries, v ≠ .map entries) → P v) (v : Value) : P v := by
  cases hv : v with
  | list items => exact list items fun inner hinner => inside_induction list map leaf inner
  | map entries => exact map entries fun entry hentry => inside_induction list map leaf entry.2
  | _ => exact leaf _ (fun _ h => by cases h) fun _ h => by cases h
termination_by v
decreasing_by
  · have hsize := List.sizeOf_lt_of_mem hinner
    rw [Value.list.sizeOf_spec]
    omega
  · have hsize := List.sizeOf_lt_of_mem hentry
    have hparts : sizeOf entry = 1 + sizeOf entry.1 + sizeOf entry.2 := rfl
    rw [Value.map.sizeOf_spec]
    omega

namespace Settings

open Codegen.Files Codegen.Settings.Configuration

section

variable {environment : Environment} {v v' : Value}

theorem expandItems_eq (environment : Environment) (items : List Value) :
    expandItems environment items = items.map (expandValue environment) := by
  induction items with
  | nil => rfl
  | cons v rest ih => rw [expandItems, ih, List.map_cons]

theorem expandEntries_eq (environment : Environment) (entries : List (Value × Value)) :
    expandEntries environment entries = entries.map fun entry => (entry.1, expandValue environment entry.2) := by
  induction entries with
  | nil => rfl
  | cons entry rest ih => rw [expandEntries, ih, List.map_cons]

/-- A value comes to one of the same shape: lists and mappings are gone through, texts are expanded, and
everything else, the keys of mappings included, stays as it is. -/
inductive Resolves (environment : Environment) : Value → Value → Prop
  | text {text result : String} (h : Expands environment text result) :
      Resolves environment (.text text) (.text result)
  | list {items results : List Value} (hlength : results.length = items.length)
      (h : ∀ (i : Nat) v v', items[i]? = some v → results[i]? = some v' → Resolves environment v v') :
      Resolves environment (.list items) (.list results)
  | map {entries results : List (Value × Value)} (hkeys : results.map (·.1) = entries.map (·.1))
      (h : ∀ (i : Nat) entry entry', entries[i]? = some entry → results[i]? = some entry' →
        Resolves environment entry.2 entry'.2) :
      Resolves environment (.map entries) (.map results)
  | leaf {v : Value} (htext : ∀ text, v ≠ .text text) (hlist : ∀ items, v ≠ .list items)
      (hmap : ∀ entries, v ≠ .map entries) : Resolves environment v v

theorem expandValue_leaf (htext : ∀ text, v ≠ .text text) (hlist : ∀ items, v ≠ .list items)
    (hmap : ∀ entries, v ≠ .map entries) : expandValue environment v = v := by
  rw [expandValue.eq_def]
  split
  · exact absurd rfl (htext _)
  · exact absurd rfl (hlist _)
  · exact absurd rfl (hmap _)
  · rfl

theorem resolves_expandValue (environment : Environment) (v : Value) :
    Resolves environment v (expandValue environment v) := by
  induction v using Value.inside_induction with
  | list items ih =>
      rw [expandValue, expandItems_eq]
      refine .list (List.length_map _) fun i v v' hv hv' => ?_
      rw [List.getElem?_map, hv] at hv'
      cases hv'
      exact ih v (List.mem_of_getElem? hv)
  | map entries ih =>
      rw [expandValue, expandEntries_eq]
      refine .map (by rw [List.map_map]; rfl) fun i entry entry' hentry hentry' => ?_
      rw [List.getElem?_map, hentry] at hentry'
      cases hentry'
      exact ih entry (List.mem_of_getElem? hentry)
  | leaf v hlist hmap =>
      by_cases htext : ∃ text, v = .text text
      · obtain ⟨text, rfl⟩ := htext
        exact .text (expands_iff.mpr rfl)
      · rw [expandValue_leaf (fun text h => htext ⟨text, h⟩) hlist hmap]
        exact .leaf (fun text h => htext ⟨text, h⟩) hlist hmap

theorem Resolves.eq (h : Resolves environment v v') : expandValue environment v = v' := by
  induction h with
  | text h => rw [expandValue, expands_iff.mp h]
  | @list items results hlength h ih =>
      rw [expandValue, expandItems_eq]
      refine congrArg Value.list (List.ext_getElem? fun i => ?_)
      rw [List.getElem?_map]
      rcases hv : items[i]? with _ | v
      · rw [List.getElem?_eq_none_iff] at hv
        exact (List.getElem?_eq_none (hlength ▸ hv)).symm
      · obtain ⟨hi, -⟩ := List.getElem?_eq_some_iff.mp hv
        have hv' : results[i]? = some results[i] := List.getElem?_eq_getElem (hlength.symm ▸ hi)
        rw [hv', Option.map_some, ih i _ _ hv hv']
  | @map entries results hkeys h ih =>
      rw [expandValue, expandEntries_eq]
      refine congrArg Value.map (List.ext_getElem? fun i => ?_)
      have hkey := congrArg (·[i]?) hkeys
      simp only [List.getElem?_map] at hkey
      rw [List.getElem?_map]
      rcases hentry : entries[i]? with _ | entry <;> rcases hentry' : results[i]? with _ | entry'
      · rfl
      · rw [hentry, hentry'] at hkey
        cases hkey
      · rw [hentry, hentry'] at hkey
        cases hkey
      · rw [hentry, hentry'] at hkey
        have hsame : entry'.1 = entry.1 := Option.some.inj hkey
        rw [Option.map_some, ih i _ _ hentry hentry', ← hsame]
  | leaf htext hlist hmap => exact expandValue_leaf htext hlist hmap

theorem expandValue_eq_iff : expandValue environment v = v' ↔ Resolves environment v v' :=
  ⟨fun h => h ▸ resolves_expandValue environment v, Resolves.eq⟩

/-! ### References in vain -/

/-- A text that stands in a value, in lists and under the keys of mappings. -/
inductive Holds : Value → String → Prop
  | here (text : String) : Holds (.text text) text
  | item {items : List Value} {v : Value} {text : String} (hv : v ∈ items) (h : Holds v text) :
      Holds (.list items) text
  | entry {entries : List (Value × Value)} {entry : Value × Value} {text : String} (hentry : entry ∈ entries)
      (h : Holds entry.2 text) : Holds (.map entries) text

/-- A text of the value refers to a variable that is not set, without giving anything instead. -/
def RefersInVain (environment : Environment) (v : Value) (name : String) : Prop :=
  ∃ text pieces r, Holds v text ∧ TakenApart text.toList pieces ∧ .reference r ∈ pieces ∧
    r.IsVain environment ∧ String.ofList r.name = name

theorem expandValue_of_isVain (h : ∀ text, Holds v text → ∀ r, .reference r ∈ piecesOf text →
    r.IsVain environment) : expandValue environment v = v := by
  induction v using Value.inside_induction with
  | list items ih =>
      rw [expandValue, expandItems_eq]
      conv_rhs => rw [← List.map_id items]
      refine congrArg Value.list (List.map_congr_left fun v hv => ?_)
      exact ih v hv fun text htext => h text (.item hv htext)
  | map entries ih =>
      rw [expandValue, expandEntries_eq]
      conv_rhs => rw [← List.map_id entries]
      refine congrArg Value.map (List.map_congr_left fun entry hentry => ?_)
      rw [ih entry hentry fun text htext => h text (.entry hentry htext)]
      rfl
  | leaf v hlist hmap =>
      by_cases htext : ∃ text, v = .text text
      · obtain ⟨text, rfl⟩ := htext
        rw [expandValue, expand_of_isVain (h text (.here text))]
      · exact expandValue_leaf (fun text h => htext ⟨text, h⟩) hlist hmap

theorem mem_unknownInItems_iff {name : String} {items : List Value} :
    name ∈ unknownInItems environment items ↔ ∃ v ∈ items, name ∈ unknownIn environment v := by
  induction items with
  | nil => simp [unknownInItems]
  | cons v rest ih => rw [unknownInItems, List.mem_append, ih, List.exists_mem_cons_iff]

theorem mem_unknownInEntries_iff {name : String} {entries : List (Value × Value)} :
    name ∈ unknownInEntries environment entries ↔
      ∃ entry ∈ entries, name ∈ unknownIn environment entry.2 := by
  induction entries with
  | nil => simp [unknownInEntries]
  | cons entry rest ih => rw [unknownInEntries, List.mem_append, ih, List.exists_mem_cons_iff]

theorem mem_unknownIn_iff {name : String} :
    name ∈ unknownIn environment v ↔ ∃ text, Holds v text ∧ name ∈ unknownNames environment text := by
  induction v using Value.inside_induction with
  | list items ih =>
      rw [unknownIn, mem_unknownInItems_iff]
      constructor
      · rintro ⟨v, hv, hname⟩
        obtain ⟨text, htext, hname⟩ := (ih v hv).mp hname
        exact ⟨text, .item hv htext, hname⟩
      · rintro ⟨text, htext, hname⟩
        cases htext with
        | item hv htext => exact ⟨_, hv, (ih _ hv).mpr ⟨text, htext, hname⟩⟩
  | map entries ih =>
      rw [unknownIn, mem_unknownInEntries_iff]
      constructor
      · rintro ⟨entry, hentry, hname⟩
        obtain ⟨text, htext, hname⟩ := (ih entry hentry).mp hname
        exact ⟨text, .entry hentry htext, hname⟩
      · rintro ⟨text, htext, hname⟩
        cases htext with
        | entry hentry htext => exact ⟨_, hentry, (ih _ hentry).mpr ⟨text, htext, hname⟩⟩
  | leaf v hlist hmap =>
      rw [unknownIn.eq_def]
      split
      · rename_i text
        constructor
        · exact fun hname => ⟨text, .here text, hname⟩
        · rintro ⟨other, hother, hname⟩
          cases hother
          exact hname
      · exact absurd rfl (hlist _)
      · exact absurd rfl (hmap _)
      · rename_i htext _ _
        constructor
        · intro hname
          cases hname
        · rintro ⟨text, hholds, _⟩
          cases hholds with
          | here text => exact absurd rfl (htext text)
          | item _ _ => exact absurd rfl (hlist _)
          | entry _ _ => exact absurd rfl (hmap _)

theorem mem_unknownIn {name : String} :
    name ∈ unknownIn environment v ↔ RefersInVain environment v name := by
  rw [mem_unknownIn_iff]
  constructor
  · rintro ⟨text, htext, hname⟩
    obtain ⟨r, hr, hvain, hname⟩ := mem_unknownNames_iff.mp hname
    exact ⟨text, _, r, htext, takenApart_iff.mpr rfl, hr, hvain, hname⟩
  · rintro ⟨text, pieces, r, htext, hpieces, hr, hvain, hname⟩
    rw [takenApart_iff.mp hpieces] at hr
    exact ⟨text, htext, mem_unknownNames_iff.mpr ⟨r, hr, hvain, hname⟩⟩

end

/-! ### Reading -/

namespace Session

variable {session : Session} {file : Path} {raw : List (Value × Value)}

/-- Why a message about the configuration cannot be written, if it is one that is written. -/
def refusal? (session : Session) (level : Int) (message : String) : Option Console.MarkupFault :=
  if session.levels.isEnabled Log.configurationLogger level then Console.fault? message else none

def said : Option Console.MarkupFault → Except Failure Unit
  | none => .ok ()
  | some fault => .error (.markup fault)

theorem run_say_eq (level : Int) (message : String) (session : Session) :
    (say level message).run session = (said (session.refusal? level message), session) := by
  rw [run_say, Log.record?, refusal?]
  split
  · cases hfault : Console.fault? message <;> simp only [bind, Except.bind, hfault] <;> rfl
  · rfl

theorem run_forM_say (level : Int) (message : String → String) (names : List String) (session : Session) :
    (names.forM fun name => say level (message name)).run session =
      (said ((names.map message).findSome? (session.refusal? level)), session) := by
  induction names with
  | nil => rfl
  | cons name rest ih =>
      have hname := run_say_eq level (message name) session
      rw [List.map_cons, List.findSome?_cons]
      cases hrefused : session.refusal? level (message name) with
      | none =>
          rw [hrefused] at hname
          exact (Stateful.run_bind_ok hname _).trans ih
      | some fault =>
          rw [hrefused] at hname
          exact Stateful.run_bind_error hname _

def notFoundMessage (name : String) : String :=
  s!"Environment variable '{name}' not found, keeping original value"

def loadedMessage (file : Path) : String := s!"Loaded configuration from {file}"

def notices (environment : Environment) (raw : List (Value × Value)) (file : Path) : List String :=
  (unknownInEntries environment raw).map notFoundMessage ++ [loadedMessage file]

theorem run_readExpanded (hraw : (readEntries file).run session = (.ok raw, session)) :
    (readExpanded file).run session =
      ((said ((notices session.environment raw file).findSome? (session.refusal? Log.infoLevel))).map
        fun _ => expandEntries session.environment raw, session) := by
  have hnames := run_forM_say Log.infoLevel notFoundMessage (unknownInEntries session.environment raw) session
  have hloaded := run_say_eq Log.infoLevel (loadedMessage file) session
  rw [readExpanded, Stateful.run_bind_ok hraw, Stateful.run_bind_ok (Stateful.run_get session), notices,
    List.findSome?_append, List.findSome?_singleton]
  cases hrefused : ((unknownInEntries session.environment raw).map notFoundMessage).findSome?
      (session.refusal? Log.infoLevel) with
  | some fault =>
      rw [hrefused] at hnames
      exact Stateful.run_bind_error hnames _
  | none =>
      rw [hrefused] at hnames
      refine (Stateful.run_bind_ok hnames _).trans ?_
      cases hlast : session.refusal? Log.infoLevel (loadedMessage file) with
      | some fault =>
          rw [hlast] at hloaded
          exact Stateful.run_bind_error hloaded _
      | none =>
          rw [hlast] at hloaded
          exact Stateful.run_bind_ok hloaded _

/-- A message that goes with working out the entries of a file: that a variable is not found, once for each
reference that is in vain, or at the end that the file is read. -/
inductive Notifies (environment : Environment) (raw : List (Value × Value)) (file : Path) : String → Prop
  | notFound {name : String} (h : RefersInVain environment (.map raw) name) :
      Notifies environment raw file (notFoundMessage name)
  | loaded : Notifies environment raw file (loadedMessage file)

theorem mem_notices_iff {environment : Environment} {message : String} :
    message ∈ notices environment raw file ↔ Notifies environment raw file message := by
  have hnames : ∀ name, name ∈ unknownInEntries environment raw ↔
      RefersInVain environment (.map raw) name := fun name => by rw [← mem_unknownIn, unknownIn]
  rw [notices, List.mem_append, List.mem_map, List.mem_singleton]
  constructor
  · rintro (⟨name, hname, rfl⟩ | rfl)
    · exact .notFound ((hnames name).mp hname)
    · exact .loaded
  · intro h
    cases h with
    | notFound h => exact .inl ⟨_, (hnames _).mpr h, rfl⟩
    | loaded => exact .inr rfl

end Session

/-- No text of the value refers to a variable that is set, and none gives anything instead of one. -/
def OnlyInVain (environment : Environment) (v : Value) : Prop :=
  ∀ text pieces r, Holds v text → TakenApart text.toList pieces → .reference r ∈ pieces →
    r.IsVain environment

/-- A configuration with one text. -/
def single (text : String) : Session where
  workspace := ⟨⟨[(["mdagen.yml"], .file (.bytes ("a: " ++ text).toUTF8))]⟩, []⟩
  environment := []

def singleFile : Path := .ofString "mdagen.yml"

theorem exists_raw_single (text : String) (messages : List String)
    (h : ((Session.readEntries singleFile).run (single text)).1.toOption.map
      (Session.notices [] · singleFile) = some messages) :
    ∃ raw, (Session.readEntries singleFile).run (single text) = (.ok raw, single text) ∧
      ∀ message, Session.Notifies [] raw singleFile message ↔ message ∈ messages := by
  obtain ⟨raw, hraw, rfl⟩ := Option.map_eq_some_iff.mp h
  refine ⟨raw, ?_, fun message => Session.mem_notices_iff.symm⟩
  exact Prod.ext (ok_of_toOption hraw) (Session.readEntries_keeps singleFile (single text)).symm

end Settings

end Codegen
