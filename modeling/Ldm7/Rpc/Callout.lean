import Mathlib.Data.List.Basic

/-! The callout list of the RPC server (`svc.c`): `svc_register`, `svc_unregister` and
`svc_find` over the list headed by `svc_head`. The list is the `sc_next` chain; a
pointer into it is the split of the list at that entry. -/
namespace Ldm7
namespace Callout

abbrev Dispatch := Nat

/-- `struct svc_callout` without its link. `sc_prog` and `sc_vers` are `unsigned long`. -/
structure SvcCallout where
  scProg : UInt64
  scVers : UInt64
  scDispatch : Dispatch
  deriving DecidableEq

def SvcCallout.key (s : SvcCallout) : UInt64 × UInt64 := (s.scProg,s.scVers)

/-- `svc_find`: the entries before the first match (the last of them is `*prev`), the
match, and the entries after it. -/
def svcFind (prog vers : UInt64) :
    List SvcCallout → Option (List SvcCallout × SvcCallout × List SvcCallout)
  | [] => none
  | s :: rest =>
    if s.scProg = prog ∧ s.scVers = vers then some ([],s,rest)
    else (svcFind prog vers rest).map fun r => (s :: r.1,r.2)

/-- `svc_register`: `alloc` is whether `mem_alloc` succeeds, `pmapSet` what `pmap_set`
returns when `protocol` is nonzero. -/
def svcRegister (head : List SvcCallout) (prog vers : UInt64) (dispatch : Dispatch)
    (protocol : Int) (alloc pmapSet : Bool) : Bool × List SvcCallout :=
  match svcFind prog vers head with
  | some (_,s,_) => if s.scDispatch = dispatch then pmapIt head else (false,head)
  | none => if alloc then pmapIt (⟨prog,vers,dispatch⟩ :: head) else (false,head)
where
  pmapIt (head : List SvcCallout) : Bool × List SvcCallout :=
    if protocol ≠ 0 then (pmapSet,head) else (true,head)

/-- `svc_unregister`: `prev->sc_next = s->sc_next` (or `svc_head = s->sc_next`). -/
def svcUnregister (head : List SvcCallout) (prog vers : UInt64) : List SvcCallout :=
  match svcFind prog vers head with
  | none => head
  | some (pre,_,post) => pre ++ post

/-- A call on the callout list, with the outcomes of `mem_alloc` and `pmap_set`. -/
inductive Op
  | register (prog vers : UInt64) (dispatch : Dispatch) (protocol : Int) (alloc pmapSet : Bool)
  | unregister (prog vers : UInt64)

def Op.apply (head : List SvcCallout) : Op → List SvcCallout
  | .register p v d pr a ps => (svcRegister head p v d pr a ps).2
  | .unregister p v => svcUnregister head p v

def run (ops : List Op) : List SvcCallout := ops.foldl Op.apply []

theorem svcFind_some {prog vers : UInt64} {l pre post : List SvcCallout} {s : SvcCallout}
    (h : svcFind prog vers l = some (pre,s,post)) :
    l = pre ++ s :: post ∧ s.key = (prog,vers) ∧ ∀ x ∈ pre, x.key ≠ (prog,vers) := by
  induction l generalizing pre with
  | nil => simp [svcFind] at h
  | cons x l ih =>
    simp only [svcFind] at h
    split_ifs at h with hx
    · cases h; simp [SvcCallout.key,hx]
    · obtain ⟨⟨pre',s',post'⟩,hr,hre⟩ := Option.map_eq_some'.mp h
      obtain ⟨rfl,rfl,rfl⟩ := Prod.mk.inj_iff.mp hre |>.imp_right Prod.mk.inj_iff.mp
      obtain ⟨h1,h2,h3⟩ := ih hr
      refine ⟨by rw [h1]; rfl,h2,?_⟩
      simp only [List.mem_cons,forall_eq_or_imp]
      exact ⟨fun he => hx (by simpa [SvcCallout.key] using he),h3⟩

theorem svcFind_none {prog vers : UInt64} {l : List SvcCallout} :
    svcFind prog vers l = none ↔ ∀ x ∈ l, x.key ≠ (prog,vers) := by
  induction l with
  | nil => simp [svcFind]
  | cons x l ih =>
    simp only [svcFind]
    split_ifs with hx
    · simp [SvcCallout.key,hx]
    · simp only [Option.map_eq_none',ih,List.mem_cons,forall_eq_or_imp]
      exact ⟨fun h => ⟨fun he => hx (by simpa [SvcCallout.key] using he),h⟩,And.right⟩

theorem svcFind_cons_self (prog vers : UInt64) (d : Dispatch) (l : List SvcCallout) :
    svcFind prog vers (⟨prog,vers,d⟩ :: l) = some ([],⟨prog,vers,d⟩,l) := by
  simp [svcFind]

@[simp] theorem svcRegister_pmapIt_snd (protocol : Int) (pmapSet : Bool) (l : List SvcCallout) :
    (svcRegister.pmapIt protocol pmapSet l).2 = l := by
  unfold svcRegister.pmapIt; split_ifs <;> rfl

/-- `svc_register` either leaves the list alone or, when no entry has its key, links
the new entry at the head. -/
theorem svcRegister_snd (head : List SvcCallout) (p v : UInt64) (d : Dispatch) (pr : Int)
    (a ps : Bool) :
    (svcRegister head p v d pr a ps).2 = head ∨
      svcFind p v head = none ∧ (svcRegister head p v d pr a ps).2 = ⟨p,v,d⟩ :: head := by
  unfold svcRegister
  split
  · split_ifs <;> simp
  · rename_i h; split_ifs <;> simp [h]

/-- A `svc_register` that returns `FALSE` leaves the callout list as it was, except when
no entry had the key, `mem_alloc` succeeded and `pmap_set` failed for a nonzero protocol:
the entry it linked then stays at the head. -/
theorem svcRegister_false_list (head : List SvcCallout) (p v : UInt64) (d : Dispatch)
    (pr : Int) (a ps : Bool) (h : (svcRegister head p v d pr a ps).1 = false) :
    (svcRegister head p v d pr a ps).2 = head ∨
      svcFind p v head = none ∧ a = true ∧ pr ≠ 0 ∧ ps = false ∧
        (svcRegister head p v d pr a ps).2 = ⟨p,v,d⟩ :: head := by
  unfold svcRegister at h ⊢
  rcases hf : svcFind p v head with _ | ⟨_,s,_⟩ <;> simp only [hf] at h ⊢
  · split_ifs at h ⊢ with ha
    · unfold svcRegister.pmapIt at h ⊢
      split_ifs at h ⊢ with hp
      exact .inr ⟨trivial,ha,hp,h,rfl⟩
    · exact .inl rfl
  · exact .inl (by split_ifs <;> simp)

theorem svcRegister_false_list_pmapSet_fails :
    (svcRegister [] 1 1 0 1 true false).1 = false ∧
      (svcRegister [] 1 1 0 1 true false).2 = [⟨1,1,0⟩] :=
  ⟨rfl,((svcRegister_false_list [] 1 1 0 1 true false rfl).resolve_left (by decide)).2.2.2.2⟩

/-- A `FALSE` from `svc_register` with the new entry linked: `pmap_set` fails. -/
theorem svcRegister_false_links_entry :
    (svcRegister [] 1 1 0 1 true false).1 = false ∧ (svcRegister [] 1 1 0 1 true false).2 ≠ [] := by
  decide

/-- No two entries share a program and version. -/
def Keyed (l : List SvcCallout) : Prop := (l.map SvcCallout.key).Nodup

instance (l : List SvcCallout) : Decidable (Keyed l) :=
  inferInstanceAs (Decidable (l.map SvcCallout.key).Nodup)

theorem keyed_svcRegister {head : List SvcCallout} (h : Keyed head) (p v : UInt64) (d : Dispatch)
    (pr : Int) (a ps : Bool) : Keyed (svcRegister head p v d pr a ps).2 := by
  rcases svcRegister_snd head p v d pr a ps with he | ⟨hn,he⟩
  · rwa [he]
  · rw [he,Keyed,List.map_cons,List.nodup_cons]
    exact ⟨fun hm => by
      obtain ⟨x,hx,hk⟩ := List.mem_map.mp hm
      exact svcFind_none.mp hn x hx hk,h⟩

theorem keyed_svcUnregister {head : List SvcCallout} (h : Keyed head) (p v : UInt64) :
    Keyed (svcUnregister head p v) := by
  unfold svcUnregister
  split
  · exact h
  · rename_i pre s post hf
    rw [(svcFind_some hf).1] at h
    exact h.sublist (List.Sublist.map _ (by simp))

theorem keyed_foldl (ops : List Op) {l : List SvcCallout} (h : Keyed l) :
    Keyed (ops.foldl Op.apply l) := by
  induction ops generalizing l with
  | nil => exact h
  | cons op ops ih =>
    cases op with
    | register p v d pr a ps => exact ih (keyed_svcRegister h p v d pr a ps)
    | unregister p v => exact ih (keyed_svcUnregister h p v)

theorem svcUnregister_eq_filter {l : List SvcCallout} (h : Keyed l) (p v : UInt64) :
    svcUnregister l p v = l.filter (fun s => s.key != (p,v)) := by
  unfold svcUnregister
  split
  · rename_i hf
    exact (List.filter_eq_self.mpr fun x hx => by simpa using svcFind_none.mp hf x hx).symm
  · rename_i pre s post hf
    obtain ⟨hl,hs,hpre⟩ := svcFind_some hf
    rw [hl] at h ⊢
    have hpost : ∀ x ∈ post, x.key ≠ (p,v) := fun x hx he => by
      rw [Keyed,List.map_append,List.map_cons] at h
      exact (List.nodup_cons.mp (h.sublist (List.sublist_append_right _ _))).1
        (List.mem_map.mpr ⟨x,hx,he.trans hs.symm⟩)
    rw [List.filter_append,List.filter_cons_of_neg (by simpa using hs),
      List.filter_eq_self.mpr (by simpa using hpre),List.filter_eq_self.mpr (by simpa using hpost)]

theorem svcFind_after_svcRegister {head : List SvcCallout} {p v : UInt64} {d : Dispatch}
    {pr : Int} {a ps : Bool} (h : (svcRegister head p v d pr a ps).1 = true) :
    ∃ pre s post, svcFind p v (svcRegister head p v d pr a ps).2 = some (pre,s,post) ∧
      s.scDispatch = d := by
  unfold svcRegister at h ⊢
  split at h
  · rename_i pre s post hf
    split_ifs at h ⊢ with hd
    exact ⟨pre,s,post,by simpa using hf,hd⟩
  · split_ifs at h ⊢
    exact ⟨[],⟨p,v,d⟩,head,by simp [svcFind_cons_self],rfl⟩

/-- Every sequence of `svc_register` and `svc_unregister` calls keeps the keys of the
callout list distinct; `svc_unregister` then removes exactly the entry for its key, and
a `svc_register` that returns `TRUE` leaves an entry that `svc_find` returns with the
registered dispatch routine. -/
theorem svc_callout_laws (ops : List Op) :
    Keyed (run ops) ∧
    (∀ p v, svcUnregister (run ops) p v = (run ops).filter (fun s => s.key != (p,v))) ∧
    (∀ p v d pr a ps, (svcRegister (run ops) p v d pr a ps).1 = true →
      ∃ pre s post, svcFind p v (svcRegister (run ops) p v d pr a ps).2 = some (pre,s,post) ∧
        s.scDispatch = d) := by
  have hk := keyed_foldl ops (l := []) List.nodup_nil
  exact ⟨hk,svcUnregister_eq_filter hk,fun _ _ _ _ _ _ => svcFind_after_svcRegister⟩

end Callout
end Ldm7
