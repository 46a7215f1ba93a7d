import DhcpLeasing.Proofs.LeaseTable.Indexes

/-!
# Changes of a lease table

What each operation does to a table whose indexes agree. For every operation there is one lemma
`…_cases`: either it is refused and the table stays what it was, or the lemma says under which
condition it was accepted and what the table is then. What is said about the indexes, the leases or
the reservations after an operation follows from these lemmas and from those about `enter` and
`strike`.
-/

namespace DhcpLeasing.LeaseTable

open Text

variable {t : LeaseTable} {l m : Lease} {ip : IpAddr} {client : HwAddr}

/-! ## Taking a lease -/

/-- Whether a table can take a lease: only the same client's lease for the same address shares a key
with it, which it then replaces, and a static lease is not replaced by a dynamic one. -/
def Admits (t : LeaseTable) (l : Lease) : Prop :=
  ∀ {ip m}, t.lookup ip = some m → l.SharesKey m →
    ip = l.ip ∧ m.hwAddr = l.hwAddr ∧ (m.isStatic → l.isStatic)

lemma replaced_eq_ok_iff {r : Option IpAddr} :
    t.replaced l = .ok r ↔
      t.lookup l.ip = none ∧ r = none ∨
        ∃ m, t.lookup l.ip = some m ∧ m.hwAddr = l.hwAddr ∧ (m.isStatic → l.isStatic) ∧
          r = some l.ip := by
  unfold replaced
  cases t.lookup l.ip with
  | none => simp [@eq_comm _ r]
  | some m =>
    by_cases hhw : m.hwAddr = l.hwAddr
    · cases hm : m.isStatic <;> cases l.isStatic <;> simp [hhw, hm, @eq_comm _ r]
    · simp [hhw]

lemma checkKeys_eq_ok_iff {r : Option IpAddr} :
    t.checkKeys l r = .ok () ↔
      (∀ held, t.byHw.get? l.hwAddr = some held → some held = r) ∧
        (l.hostname ≠ "" →
          ∀ held, t.byHost.get? (lowercase l.hostname) = some held → some held = r) := by
  unfold checkKeys
  by_cases hname : l.hostname = "" <;> cases hhw : t.byHw.get? l.hwAddr <;>
    cases hhost : t.byHost.get? (lowercase l.hostname) <;>
    simp only [hname, String.isEmpty_iff, if_true, if_false, bind, Except.bind, pure, Except.pure,
      throw, throwThe, MonadExceptOf.throw] <;>
    grind

lemma checkCommit_eq_ok_iff {r : Option IpAddr} :
    t.checkCommit l = .ok r ↔ t.replaced l = .ok r ∧ t.checkKeys l r = .ok () := by
  unfold checkCommit
  cases t.replaced l with
  | error e => simp [bind, Except.bind]
  | ok r' =>
    cases hkeys : t.checkKeys l r' with
    | error e =>
      simp only [bind, Except.bind, hkeys, reduceCtorEq, Except.ok.injEq, false_iff, not_and]
      rintro rfl
      simp [hkeys]
    | ok u =>
      simp only [bind, Except.bind, hkeys, pure, Except.pure, Except.ok.injEq]
      constructor
      · rintro rfl
        exact ⟨rfl, hkeys⟩
      · exact And.left

/-- The checks let exactly those leases pass that the table can take. -/
lemma WellFormed.admits_iff (h : t.WellFormed) :
    t.Admits l ↔ ∃ r, t.checkCommit l = .ok r := by
  simp only [checkCommit_eq_ok_iff, replaced_eq_ok_iff, checkKeys_eq_ok_iff, h.byHw_iff,
    h.byHost_iff]
  constructor
  · intro hadm
    -- the checks ask where the keys of the lease point to, which is nowhere or to its own address
    cases hl : t.lookup l.ip with
    | none =>
      refine ⟨none, .inl ⟨rfl, rfl⟩, ?_, ?_⟩
      · rintro held ⟨m, hm, heq⟩
        obtain ⟨rfl, -⟩ := hadm hm (.inr (.inl heq.symm))
        simp [hl] at hm
      · rintro hname held ⟨m, hm, hmname, heq⟩
        obtain ⟨rfl, -⟩ := hadm hm (.inr (.inr ⟨hname, hmname, heq.symm⟩))
        simp [hl] at hm
    | some m =>
      obtain ⟨-, hhw, hstatic⟩ := hadm hl (.inl (h.ip_eq hl).symm)
      refine ⟨some l.ip, .inr ⟨m, rfl, hhw, hstatic, rfl⟩, ?_, ?_⟩
      · rintro held ⟨m', hm', heq⟩
        rw [(hadm hm' (.inr (.inl heq.symm))).1]
      · rintro hname held ⟨m', hm', hmname, heq⟩
        rw [(hadm hm' (.inr (.inr ⟨hname, hmname, heq.symm⟩))).1]
  · rintro ⟨r, hr, hhw, hhost⟩ ip m hm hshare
    -- whichever key is shared, the check of it has found the address that is replaced
    have hip : some ip = r ∨ ip = l.ip := by
      rcases hshare with heq | heq | ⟨hname, hmname, heq⟩
      · exact .inr ((h.ip_eq hm).symm.trans heq.symm)
      · exact .inl (hhw ip ⟨m, hm, heq.symm⟩)
      · exact .inl (hhost hname ip ⟨m, hm, hmname, heq.symm⟩)
    rcases hr with ⟨hl, rfl⟩ | ⟨m', hl, hhw', hstatic, rfl⟩
    · simp only [reduceCtorEq, false_or] at hip
      rw [hip, hl] at hm
      simp at hm
    · obtain rfl : ip = l.ip := by simpa using hip
      obtain rfl : m = m' := Option.some.inj (hm.symm.trans hl)
      exact ⟨rfl, hhw', hstatic⟩

/-- What happens when a lease is put into a table. -/
lemma put_cases (h : t.WellFormed) (l : Lease) :
    (¬ t.Admits l ∧ ∃ cause, t.put l = (.error (.conflict cause), t)) ∨
      t.Admits l ∧ t.put l = (.ok l, (t.strike l.ip).enter l) := by
  cases hcheck : t.checkCommit l with
  | error cause =>
    refine .inl ⟨?_, cause, by simp [put, hcheck]⟩
    intro hadm
    obtain ⟨r, hr⟩ := h.admits_iff.1 hadm
    simp [hcheck] at hr
  | ok r =>
    refine .inr ⟨h.admits_iff.2 ⟨r, hcheck⟩, ?_⟩
    -- striking changes nothing where there is no lease to be replaced
    rcases replaced_eq_ok_iff.1 (checkCommit_eq_ok_iff.1 hcheck).1 with
      ⟨hl, rfl⟩ | ⟨m, -, -, -, rfl⟩
    · simp [put, hcheck, strike_of_lookup_none hl]
    · simp [put, hcheck]

/-- What a table has taken it keeps in all its indexes. -/
lemma WellFormed.enter_of_admits (h : t.WellFormed) (hfamily : l.ip.family = t.family)
    (hadm : t.Admits l) : ((t.strike l.ip).enter l).WellFormed := by
  apply (h.strike l.ip).enter (by simpa using hfamily)
  intro ip m hm hshare
  rw [lookup_strike] at hm
  split at hm
  · simp at hm
  · next hne => exact hne (hadm hm hshare).1

lemma lookup_enter_strike (t : LeaseTable) (l : Lease) (ip : IpAddr) :
    ((t.strike l.ip).enter l).lookup ip = if ip = l.ip then some l else t.lookup ip := by
  rw [lookup_enter, lookup_strike]
  split <;> rfl

lemma checkFamily_eq_ok_iff : t.checkFamily ip = .ok () ↔ ip.family = t.family := by
  unfold checkFamily
  split <;> simp_all

/-! ## Operations -/

/-- What comes of a lease to be taken, new or in place of the client's own. -/
lemma commit_cases (h : t.WellFormed) (l : Lease) :
    (∃ e, t.commit l = (.error e, t)) ∨
      l.ip.family = t.family ∧ t.Admits l ∧ t.commit l = (.ok l, (t.strike l.ip).enter l) := by
  unfold commit
  cases hfamily : t.checkFamily l.ip with
  | error e => exact .inl ⟨e, rfl⟩
  | ok u =>
    rcases put_cases h l with ⟨-, cause, hput⟩ | ⟨hadm, hput⟩
    · exact .inl ⟨_, hput⟩
    · exact .inr ⟨checkFamily_eq_ok_iff.1 hfamily, hadm, hput⟩

lemma commit_of_admits (h : t.WellFormed) (hfamily : l.ip.family = t.family)
    (hadm : t.Admits l) : t.commit l = (.ok l, (t.strike l.ip).enter l) := by
  rcases put_cases h l with ⟨hnot, -⟩ | ⟨-, hput⟩
  · exact (hnot hadm).elim
  · simp only [commit, checkFamily_eq_ok_iff.2 hfamily, hput]

/-- What comes of a lease to be taken for an address that nobody holds. -/
lemma insert_cases (h : t.WellFormed) (l : Lease) :
    (∃ e, t.insert l = (.error e, t)) ∨
      l.ip.family = t.family ∧ t.lookup l.ip = none ∧ t.Admits l ∧
        t.insert l = (.ok l, (t.strike l.ip).enter l) := by
  unfold insert
  cases hfamily : t.checkFamily l.ip with
  | error e => exact .inl ⟨e, rfl⟩
  | ok u =>
    cases hl : t.lookup l.ip with
    | some m => exact .inl ⟨_, rfl⟩
    | none =>
      rcases put_cases h l with ⟨-, cause, hput⟩ | ⟨hadm, hput⟩
      · exact .inl ⟨_, hput⟩
      · exact .inr ⟨checkFamily_eq_ok_iff.1 hfamily, rfl, hadm, hput⟩

lemma insert_of_admits (h : t.WellFormed) (hfamily : l.ip.family = t.family)
    (hfree : t.lookup l.ip = none) (hadm : t.Admits l) :
    t.insert l = (.ok l, (t.strike l.ip).enter l) := by
  rcases put_cases h l with ⟨hnot, -⟩ | ⟨-, hput⟩
  · exact (hnot hadm).elim
  · simp only [insert, checkFamily_eq_ok_iff.2 hfamily, hfree, hput]

lemma find_eq_ok_iff : t.find ip client = .ok l ↔ t.lookup ip = some l ∧ l.hwAddr = client := by
  unfold find
  cases t.lookup ip with
  | none => simp
  | some m =>
    by_cases hm : m.hwAddr = client
    · simp only [hm, if_true, Except.ok.injEq, Option.some.injEq]
      constructor
      · rintro rfl
        exact ⟨rfl, hm⟩
      · exact And.left
    · simp only [hm, if_false, reduceCtorEq, Option.some.injEq, false_iff, not_and]
      rintro rfl
      exact hm

/-- A client's own dynamic lease is renewed. -/
lemma renew_of_lookup (hl : t.lookup ip = some l) (hhw : l.hwAddr = client)
    (hdynamic : l.isStatic = false) (now : Timestamp) (d : Duration) :
    t.renew now client ip d =
      (.ok (l.renew now d), { t with byIp := t.byIp.insert ip (l.renew now d) }) := by
  simp [renew, find_eq_ok_iff.2 ⟨hl, hhw⟩, hdynamic]

/-- What comes of a renewal. -/
lemma renew_cases (t : LeaseTable) (now : Timestamp) (client : HwAddr) (ip : IpAddr)
    (d : Duration) :
    (∃ e, t.renew now client ip d = (.error e, t)) ∨
      ∃ l, t.lookup ip = some l ∧ l.hwAddr = client ∧ l.isStatic = false ∧
        t.renew now client ip d =
          (.ok (l.renew now d), { t with byIp := t.byIp.insert ip (l.renew now d) }) := by
  cases hfind : t.find ip client with
  | error e => exact .inl ⟨e, by simp [renew, hfind]⟩
  | ok l =>
    obtain ⟨hl, hhw⟩ := find_eq_ok_iff.1 hfind
    cases hstatic : l.isStatic with
    | true => exact .inl ⟨_, by simp [renew, hfind, hstatic]; rfl⟩
    | false => exact .inr ⟨l, hl, hhw, hstatic, renew_of_lookup hl hhw hstatic now d⟩

/-- What comes of a removal. -/
lemma remove_cases (t : LeaseTable) (ip : IpAddr) (client : HwAddr) :
    (∃ e, t.remove ip client = (.error e, t)) ∨
      ∃ l, t.lookup ip = some l ∧ l.hwAddr = client ∧
        t.remove ip client = (.ok l, t.strike ip) := by
  unfold remove
  cases hfind : t.find ip client with
  | error e => exact .inl ⟨e, rfl⟩
  | ok l =>
    obtain ⟨hl, hhw⟩ := find_eq_ok_iff.1 hfind
    exact .inr ⟨l, hl, hhw, rfl⟩

/-- What comes of an edit. -/
lemma edit_cases (h : t.WellFormed) (old new : Lease) :
    (∃ e, t.edit old new = (.error e, t)) ∨
      ∃ l, t.lookup old.ip = some l ∧ l.hwAddr = old.hwAddr ∧ new.ip.family = t.family ∧
        (t.strike old.ip).Admits new ∧
          t.edit old new = (.ok new, ((t.strike old.ip).strike new.ip).enter new) := by
  unfold edit
  cases hfamily : t.checkFamily new.ip with
  | error e => exact .inl ⟨e, rfl⟩
  | ok u =>
    cases hfind : t.find old.ip old.hwAddr with
    | error e => exact .inl ⟨e, rfl⟩
    | ok l =>
      obtain ⟨hl, hhw⟩ := find_eq_ok_iff.1 hfind
      rcases put_cases (h.strike old.ip) new with ⟨-, cause, hput⟩ | ⟨hadm, hput⟩
      · -- the old lease is entered again, which undoes that it was struck
        refine .inl ⟨.conflict cause, ?_⟩
        simp only [hput, h.enter_strike hl]
      · exact .inr ⟨l, hl, hhw, checkFamily_eq_ok_iff.1 hfamily, hadm, by simp only [hput]⟩

/-! ## Renewal, reset and reaping -/

/-- Putting a lease in place of one with the same client and the same hostname. -/
lemma WellFormed.overwrite (h : t.WellFormed) (hm : t.lookup ip = some m) (hip : l.ip = ip)
    (hhw : l.hwAddr = m.hwAddr) (hname : l.hostname = m.hostname) :
    { t with byIp := t.byIp.insert ip l }.WellFormed where
  ip_eq {ip' l'} hl' := by
    simp only [lookup, SortedMap.get?_insert] at hl'
    split at hl'
    · next heq => rw [← Option.some.inj hl', heq, hip]
    · exact h.ip_eq hl'
  family_eq {ip' l'} hl' := by
    simp only [lookup, SortedMap.get?_insert] at hl'
    split at hl'
    · next heq => rw [heq, h.family_eq hm]
    · exact h.family_eq hl'
  byHw_iff {client ip'} := by
    simp only [lookup, SortedMap.get?_insert]
    rw [h.byHw_iff]
    split
    · next heq => simp [heq, hm, hhw]
    · rfl
  byHost_iff {key ip'} := by
    simp only [lookup, SortedMap.get?_insert]
    rw [h.byHost_iff]
    split
    · next heq => simp [heq, hm, hname]
    · rfl

/-- A renewed lease differs from the old one in its expiry only. -/
lemma WellFormed.renewed (h : t.WellFormed) (hl : t.lookup ip = some l) (now : Timestamp)
    (d : Duration) : { t with byIp := t.byIp.insert ip (l.renew now d) }.WellFormed := by
  refine h.overwrite hl ?_ ?_ ?_
  · rw [← h.ip_eq hl]
    unfold Lease.renew
    split <;> rfl
  all_goals
    unfold Lease.renew
    split <;> rfl

lemma lookup_strikeAll (ls : List Lease) (t : LeaseTable) (ip : IpAddr) :
    (ls.foldl (fun t l => t.strike l.ip) t).lookup ip =
      if ∃ l ∈ ls, l.ip = ip then none else t.lookup ip := by
  induction ls generalizing t with
  | nil => simp
  | cons l rest ih =>
    rw [List.foldl_cons, ih, lookup_strike]
    by_cases hl : l.ip = ip
    · simp [hl]
    · simp [hl, Ne.symm hl]

lemma WellFormed.strikeAll (h : t.WellFormed) (ls : List Lease) :
    (ls.foldl (fun t l => t.strike l.ip) t).WellFormed := by
  induction ls generalizing t with
  | nil => exact h
  | cons l rest ih => exact ih (h.strike l.ip)

@[simp] lemma family_reapExpired (t : LeaseTable) (now : Timestamp) :
    (t.reapExpired now).2.family = t.family :=
  List.foldlRecOn _ _ (motive := fun s : LeaseTable => s.family = t.family) rfl
    fun s hs l _ => by rw [family_strike, hs]

/-- The stored leases are those that are found under their own addresses. -/
lemma WellFormed.mem_leases_iff (h : t.WellFormed) : l ∈ t.leases ↔ t.lookup l.ip = some l := by
  rw [leases, SortedMap.mem_values_iff]
  constructor
  · rintro ⟨ip, hl⟩
    rwa [h.ip_eq hl]
  · exact fun hl => ⟨l.ip, hl⟩

/-- No lease is listed twice. -/
lemma WellFormed.nodup_leases (h : t.WellFormed) : t.leases.Nodup := by
  rw [leases, SortedMap.values, List.Nodup, List.pairwise_map]
  refine t.byIp.ascending.imp_of_mem ?_
  intro a b ha hb hlt heq
  have hip : a.2.ip = a.1 := h.ip_eq (SortedMap.mem_toList_iff.1 ha)
  have hip' : b.2.ip = b.1 := h.ip_eq (SortedMap.mem_toList_iff.1 hb)
  rw [← hip, ← hip', heq, Std.ReflOrd.compare_self] at hlt
  cases hlt

/-- Reaping leaves the leases that have not expired. -/
lemma WellFormed.lookup_reapExpired (h : t.WellFormed) (now : Timestamp) (ip : IpAddr) :
    (t.reapExpired now).2.lookup ip = (t.lookup ip).filter fun l => !l.isExpiredAt now := by
  rw [reapExpired, lookup_strikeAll]
  cases hl : t.lookup ip with
  | none => simp
  | some l =>
    -- no lease but the one for the address can have it struck
    have hmem : (∃ m ∈ t.leases.filter (·.isExpiredAt now), m.ip = ip) ↔ l.isExpiredAt now := by
      simp only [List.mem_filter, h.mem_leases_iff]
      constructor
      · rintro ⟨m, ⟨hm, hexp⟩, rfl⟩
        obtain rfl : m = l := Option.some.inj (hm.symm.trans hl)
        exact hexp
      · exact fun hexp => ⟨l, ⟨by rwa [h.ip_eq hl], hexp⟩, h.ip_eq hl⟩
    simp only [hmem]
    by_cases hexp : l.isExpiredAt now <;> simp [Option.filter, hexp]

end DhcpLeasing.LeaseTable
