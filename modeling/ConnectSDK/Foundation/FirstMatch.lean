/-! # Searches whose test may fail

A search stops at the first match. Only the tests up to there have to succeed.
-/

namespace ConnectSDK

/-- What a search looks at: the first match and what stands before it. -/
def upToFirst (fits : α → Bool) : List α → List α
  | [] => []
  | first :: rest => if fits first then [first] else first :: upToFirst fits rest

theorem findM?_append {α : Type} (test : α → Option Bool) (list more : List α) :
    (list ++ more).findM? test =
      (list.findM? test).bind fun found =>
        match found with
        | some element => some (some element)
        | none => more.findM? test := by
  induction list with
  | nil => rfl
  | cons first rest induction =>
      rw [List.cons_append, List.findM?, List.findM?, induction]
      rcases test first with _ | _ | _ <;> rfl

theorem findSomeM?_congr {α β : Type} {answer other : α → Option (Option β)}
    {list : List α} (same : ∀ element ∈ list, answer element = other element) :
    list.findSomeM? answer = list.findSomeM? other := by
  induction list with
  | nil => rfl
  | cons first rest induction =>
      rw [List.findSomeM?_cons, List.findSomeM?_cons, same first (List.mem_cons_self ..),
        induction fun element member => same element (List.mem_cons_of_mem _ member)]

theorem findSomeM?_attach {α β : Type} (answer : α → Option (Option β)) (list : List α) :
    (list.attach.findSomeM? fun element => answer element.val) =
      list.findSomeM? answer := by
  have mapped : ∀ members : List { element // element ∈ list },
      (members.findSomeM? fun element => answer element.val) =
        (members.map Subtype.val).findSomeM? answer := by
    intro members
    induction members with
    | nil => rfl
    | cons first rest induction =>
        rw [List.map_cons, List.findSomeM?_cons, List.findSomeM?_cons, induction]
  rw [mapped, List.attach_map_subtype_val]

/-- A search through lists one after the other. -/
theorem findM?_flatMap {α β : Type} (test : β → Option Bool) (lists : α → List β)
    (list : List α) :
    (list.flatMap lists).findM? test =
      list.findSomeM? fun element => (lists element).findM? test := by
  induction list with
  | nil => rfl
  | cons first rest induction =>
      rw [List.flatMap_cons, findM?_append, induction, List.findSomeM?_cons]
      rfl

/-- A search finds the first match if and only if no test fails on the way. -/
theorem findM?_eq_find?_iff {α : Type} {test : α → Option Bool} {fits : α → Bool}
    {reads : α → Prop} {list : List α}
    (succeeds : ∀ element ∈ list, reads element → test element = some (fits element))
    (fails : ∀ element ∈ list, ¬ reads element → test element = none) :
    list.findM? test = some (list.find? fits) ↔
      ∀ element ∈ upToFirst fits list, reads element := by
  induction list with
  | nil => simp [upToFirst, List.findM?]
  | cons first rest induction =>
      by_cases read : reads first
      · have tested := succeeds first (List.mem_cons_self ..) read
        have below := induction
          (fun element member => succeeds element (List.mem_cons_of_mem _ member))
          (fun element member => fails element (List.mem_cons_of_mem _ member))
        rw [List.findM?, tested]
        cases matched : fits first with
        | true => simp [upToFirst, matched, read]
        | false => simp [upToFirst, matched, read, below]
      · have tested := fails first (List.mem_cons_self ..) read
        rw [List.findM?, tested]
        refine iff_of_false (fun found => by cases found) fun all => read (all first ?_)
        rw [upToFirst]
        split <;> exact List.mem_cons_self ..

end ConnectSDK
