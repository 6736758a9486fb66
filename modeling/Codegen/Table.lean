/-!
Tables of named entries in the order of their first insertion.
-/

namespace Codegen.Table

variable {α : Type}

/-- Puts an entry in; one of the same name yields its place. -/
def put (name : String) (x : α) (table : List (String × α)) : List (String × α) :=
  match table with
  | [] => [(name, x)]
  | (n, y) :: rest => if name == n then (name, x) :: rest else (n, y) :: put name x rest

def erase (name : String) (table : List (String × α)) : List (String × α) :=
  table.filter fun (n, _) => n != name

@[simp] theorem lookup_put (name : String) (x : α) (table : List (String × α)) :
    (put name x table).lookup name = some x := by
  induction table with
  | nil => simp [put]
  | cons entry rest ih =>
    obtain ⟨n, y⟩ := entry
    by_cases h : name = n
    · simp [put, h]
    · have hb : (name == n) = false := beq_eq_false_iff_ne.mpr h
      simp [put, hb, List.lookup_cons, ih]

theorem lookup_put_of_ne {name other : String} (h : other ≠ name) (x : α)
    (table : List (String × α)) : (put name x table).lookup other = table.lookup other := by
  induction table with
  | nil => simp [put, List.lookup_cons, beq_eq_false_iff_ne.mpr h]
  | cons entry rest ih =>
    obtain ⟨n, y⟩ := entry
    by_cases hn : name = n
    · subst hn
      simp [put, List.lookup_cons, beq_eq_false_iff_ne.mpr h]
    · simp only [put, beq_iff_eq, hn, if_false, List.lookup_cons, ih]

/-- Entries put in one after another: of those of one name the last one stays. -/
theorem lookup_foldl_put (entries table : List (String × α)) (name : String) :
    (entries.foldl (fun table (name, x) => put name x table) table).lookup name =
      (entries.reverse.lookup name).or (table.lookup name) := by
  induction entries generalizing table with
  | nil => rfl
  | cons entry rest ih =>
    obtain ⟨key, x⟩ := entry
    rw [List.foldl_cons, ih, List.reverse_cons, List.lookup_append, Option.or_assoc]
    congr 1
    by_cases h : name = key
    · simp [h]
    · rw [lookup_put_of_ne h, List.lookup_cons, beq_false_of_ne h]
      rfl

theorem lookup_of_mem {κ : Type} [BEq κ] [LawfulBEq κ] {entries : List (κ × α)} (hkeys : (entries.map (·.1)).Nodup)
    {key : κ} {x : α} (h : (key, x) ∈ entries) : entries.lookup key = some x := by
  obtain ⟨before, after, rfl⟩ := List.append_of_mem h
  rw [List.lookup_eq_some_iff]
  refine ⟨before, after, rfl, fun entry hentry => bne_iff_ne.mpr fun heq => ?_⟩
  rw [List.map_append, List.map_cons, List.nodup_append] at hkeys
  exact hkeys.2.2 _ (List.mem_map_of_mem hentry) _ List.mem_cons_self heq.symm

/-- The table of pairs in which a name may come again: its first place and its last value. -/
def ofPairs (pairs : List (String × α)) : List (String × α) :=
  pairs.foldl (fun table (name, x) => put name x table) []

end Codegen.Table
