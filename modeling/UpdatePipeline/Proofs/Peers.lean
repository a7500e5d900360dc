import UpdatePipeline.Envelope
set_option autoImplicit false

/-!
# Which record of a peer counts

Of all the records of a peer that were put into a directory the last one stands: first
for sorted maps (`SortedMap.get?_insertAll`), then for the directories that travel with
an envelope (`Peers.user?_ofLists`, `Peers.chat?_ofLists`).
-/

namespace UpdatePipeline

open Schema

theorem SortedMap.get?_insertAll {α : Type} (m : SortedMap α) (key : α → Int) (values : List α)
    (k : Int) :
    (m.insertAll key values).get? k = (values.filter (key · = k)).getLast?.or (m.get? k) := by
  induction values generalizing m with
  | nil => rfl
  | cons a rest ih =>
    have hstep : m.insertAll key (a :: rest) = (m.insert (key a) a).insertAll key rest := rfl
    rw [hstep, ih, get?_insert]
    by_cases h : key a = k
    · rw [List.filter_cons_of_pos (by simpa using h), List.getLast?_cons, if_pos h.symm]
      cases (rest.filter (key · = k)).getLast? <;> rfl
    · rw [List.filter_cons_of_neg (by simpa using h), if_neg (Ne.symm h)]

namespace Peers

/-- Records put in one after the other could have been put in at once. -/
theorem extend_extend (p : Peers) (us vs : List User) (cs ds : List Chat) :
    (p.extend us cs).extend vs ds = p.extend (us ++ vs) (cs ++ ds) := by
  simp only [extend, SortedMap.insertAll, List.foldl_append]

theorem extend_ofLists (us vs : List User) (cs ds : List Chat) :
    (ofLists us cs).extend vs ds = ofLists (us ++ vs) (cs ++ ds) :=
  extend_extend none us vs cs ds

theorem user?_ofLists (users : List User) (chats : List Chat) (id : Int64) :
    (ofLists users chats).user? id = (users.filter (·.id = id)).getLast? := by
  have h : (ofLists users chats).user? id = _ :=
    SortedMap.get?_insertAll none.users (·.id.toInt) users id.toInt
  have hnone : none.users.get? id.toInt = Option.none := rfl
  rw [h, hnone, Option.or_none]
  simp only [Int64.toInt_inj]

theorem chat?_ofLists (users : List User) (chats : List Chat) (id : Int64) :
    (ofLists users chats).chat? id = (chats.filter (·.id = id)).getLast? := by
  have h : (ofLists users chats).chat? id = _ :=
    SortedMap.get?_insertAll none.chats (·.id.toInt) chats id.toInt
  have hnone : none.chats.get? id.toInt = Option.none := rfl
  rw [h, hnone, Option.or_none]
  simp only [Int64.toInt_inj]

end Peers

end UpdatePipeline
