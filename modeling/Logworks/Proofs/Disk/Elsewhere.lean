import Logworks.Proofs.Disk.Failing

/-!
# What is elsewhere

Work on own paths leaves all else alone: what stands at other places, and what other files hold.
This file fixes

* `Spared` -- **files hold what they held, but for those that are written to**, and no file of an
  own path has come from elsewhere; `Spared.trans` puts work behind work;
* `spared_of_touches`, `spared_of_opened`, `Rearranged.spared` -- writing, opening and renaming;
* `Kept.widen`, `Spared.widen` -- **who has more paths as his own may rely on them as before**;
* `look?_elsewhere` -- **a path that leads elsewhere leads there still**, by whatever links;
* `look?_of_leads`, `hasEntry_of_leads` -- what is seen by the last name of a path.
-/

namespace Logworks.Disk

variable {own wide written inked : Path → Prop} {place : Path → Place}
  {files files' : Path → Option Nat} {d d' d'' : Disk} {p : Path} {n : Nat}

/-! ## 1. Files that are spared -/

/-- **Files hold what they held, but for those of the paths that are written to.** Those are the
same as before, or new; and no file of an own path has come from elsewhere. -/
structure Spared (own written : Path → Prop) (place : Path → Place) (d d' : Disk) : Prop where
  length : d.contents.length ≤ d'.contents.length
  others : ∀ k < d.contents.length, (∀ p, written p → d.entry? (place p) ≠ some (.file k)) →
    d'.octetsOf k = d.octetsOf k
  origin : ∀ p k, own p → d'.entry? (place p) = some (.file k) →
    d.contents.length ≤ k ∨ ∃ q, own q ∧ d.entry? (place q) = some (.file k)
  same : ∀ p k, written p → d'.entry? (place p) = some (.file k) →
    d.contents.length ≤ k ∨ d.entry? (place p) = some (.file k)

theorem Spared.refl (own written : Path → Prop) (place : Path → Place) (d : Disk) :
    Spared own written place d d where
  length := Nat.le_refl _
  others _ _ _ := rfl
  origin p _ hp he := .inr ⟨p, hp, he⟩
  same _ _ _ he := .inr he

theorem Spared.trans (h : Spared own written place d d') (h' : Spared own written place d' d'') :
    Spared own written place d d'' where
  length := Nat.le_trans h.length h'.length
  others k hk hno := by
    refine (h'.others k (Nat.lt_of_lt_of_le hk h.length) ?_).trans (h.others k hk hno)
    intro p hp he
    rcases h.same p k hp he with hle | he
    · omega
    · exact hno p hp he
  origin p k hp he := by
    rcases h'.origin p k hp he with hle | ⟨q, hq, he⟩
    · exact .inl (Nat.le_trans h.length hle)
    · exact h.origin q k hq he
  same p k hp he := by
    rcases h'.same p k hp he with hle | he
    · exact .inl (Nat.le_trans h.length hle)
    · exact h.same p k hp he

/-- Only the file of a path that is written to was written to. -/
theorem spared_of_touches (h : Placed own place files d) (hp : own p) (hw : written p)
    (hn : files p = some n) (ht : Touches n d d') : Spared own written place d d' where
  length := Nat.le_of_eq ht.length.symm
  others k _ hno := ht.others k fun e => hno p hw ((h.entry_eq_file hp).mpr (e ▸ hn))
  origin q _ hq he := .inr ⟨q, hq, (entry?_congr ht.entries _).symm.trans he⟩
  same _ _ _ he := .inr ((entry?_congr ht.entries _).symm.trans he)

/-- Only a path that is written to was opened. -/
theorem spared_of_opened (h : Placed own place files d) (hp : own p)
    (ho : Opened own place files p n d d') : Spared own (· = p) place d d' := by
  have hat := (ho.placed.entry_eq_file hp).mpr (Function.update_self p (some n) files)
  have hsame : d.contents.length ≤ n ∨ d.entry? (place p) = some (.file n) := by
    cases hf : files p with
    | none => exact .inl (ho.fresh hf)
    | some j => exact .inr ((h.entry_eq_file hp).mpr (ho.same j hf ▸ hf))
  have hnow : ∀ k, d'.entry? (place p) = some (.file k) →
      d.contents.length ≤ k ∨ d.entry? (place p) = some (.file k) := by
    intro k he
    obtain rfl := Entry.file.inj (Option.some.inj (hat.symm.trans he))
    exact hsame
  refine ⟨ho.length, fun k hk hno => ho.others k hk ?_, fun q k hq he => ?_, ?_⟩
  · rintro rfl
    rcases hsame with hle | he
    · omega
    · exact hno p rfl he
  · by_cases e : q = p
    · rw [e] at he
      exact (hnow k he).imp_right fun he => ⟨p, hp, he⟩
    · have hk := (ho.placed.entry_eq_file hq).mp he
      rw [Function.update_of_ne e] at hk
      exact .inr ⟨q, hq, (h.entry_eq_file hq).mpr hk⟩
  · rintro _ k rfl he
    exact hnow k he

/-- Files only went or moved, and a path that is written to has none but its own. -/
theorem Rearranged.spared (h : Rearranged own place files' d d') (hd : Placed own place files d)
    (hw : ∀ p, written p → own p ∧ (files' p = none ∨ files' p = files p)) :
    Spared own written place d d' where
  length := Nat.le_of_eq (by rw [h.contents])
  others k _ _ := h.octetsOf k
  origin q k hq he := .inr (h.origin q k hq ((h.placed.entry_eq_file hq).mp he))
  same q k hq he := by
    obtain ⟨ho, hf⟩ := hw q hq
    have hk := (h.placed.entry_eq_file ho).mp he
    rcases hf with hf | hf
    · rw [hf] at hk
      cases hk
    · exact .inr ((hd.entry_eq_file ho).mpr (hf ▸ hk))

/-! ## 2. More paths -/

/-- Paths beside the own ones, at which nothing has changed. -/
theorem Spared.widen (h : Spared own written place d d') (hown : ∀ p, own p → wide p)
    (hwritten : ∀ p, written p → inked p)
    (hstay : ∀ p, wide p → own p ∨ d'.entry? (place p) = d.entry? (place p))
    (hquiet : ∀ p, inked p → written p ∨ d'.entry? (place p) = d.entry? (place p)) :
    Spared wide inked place d d' where
  length := h.length
  others k hk hno := h.others k hk fun p hp => hno p (hwritten p hp)
  origin p k hp he := by
    rcases hstay p hp with hp' | hs
    · exact (h.origin p k hp' he).imp_right fun ⟨q, hq, he⟩ => ⟨q, hown q hq, he⟩
    · exact .inr ⟨p, hp, hs ▸ he⟩
  same p k hp he := by
    rcases hquiet p hp with hp' | hs
    · exact h.same p k hp' he
    · exact .inr (hs ▸ he)

/-- Who has fewer paths as his own may rely on them all the more. -/
theorem Kept.narrow (h : Kept wide place files d) (hown : ∀ p, own p → wide p) :
    Kept own place files d where
  apart p q hp hq := h.apart p q (hown p hp) (hown q hq)
  homed p hp := h.homed p (hown p hp)
  entry p hp := h.entry p (hown p hp)
  filed p k hp := h.filed p k (hown p hp)
  single p q k hp hq := h.single p q k (hown p hp) (hown q hq)
  harmless := h.harmless

/-- Work on some of the paths changes nothing at the others. -/
theorem Placed.stays (h : Placed wide place files d) (hown : ∀ p, own p → wide p)
    (hwithin : Within own place d d') (hp : wide p) :
    own p ∨ d'.entry? (place p) = d.entry? (place p) := by
  by_cases ho : own p
  · exact .inl ho
  · refine .inr (hwithin _ ?_)
    rintro _ ⟨q, hq, rfl⟩ hpre
    exact ho (h.apart q p (hown q hq) hp hpre ▸ hq)

/-- The file that stands at a place. -/
def numberAt (d : Disk) (o : Place) : Option Nat :=
  match d.entry? o with
  | some (.file k) => some k
  | _ => none

theorem map_numberAt {o : Place} (h : IsVacantOrFile d o) :
    (numberAt d o).map .file = d.entry? o := by
  unfold numberAt
  rcases h with h | ⟨k, h⟩ <;> rw [h] <;> rfl

theorem entry?_of_numberAt {o : Place} {k : Nat} (h : numberAt d o = some k) :
    d.entry? o = some (.file k) := by
  unfold numberAt at h
  split at h
  · rw [‹d.entry? o = _›, Option.some.inj h]
  · cases h

/-- **Who has more paths as his own may rely on them as before**, once work on some is done. -/
theorem Kept.widen (h : Kept wide place files d) (h' : Kept own place files' d')
    (hown : ∀ p, own p → wide p) (hwithin : Within own place d d')
    (hs : Spared own written place d d') :
    Kept wide place (fun p => numberAt d' (place p)) d' := by
  have hstay : ∀ p, wide p → ¬ own p → d'.entry? (place p) = d.entry? (place p) :=
    fun p hp hno => (h.toPlaced.stays hown hwithin hp).resolve_left hno
  have hold : ∀ p k, wide p → ¬ own p → d'.entry? (place p) = some (.file k) →
      files p = some k := by
    intro p k hp hno he
    rw [hstay p hp hno] at he
    exact (h.entry_eq_file hp).mp he
  -- an own path has no file that another path had
  have hnot : ∀ p q k, own p → wide q → ¬ own q → d'.entry? (place p) = some (.file k) →
      d'.entry? (place q) ≠ some (.file k) := by
    intro p q k hp hq hno he he'
    have hk := hold q k hq hno he'
    rcases hs.origin p k hp he with hle | ⟨r, hr, her⟩
    · exact absurd (h.filed q k hq hk) (Nat.not_lt_of_le hle)
    · have hj := (h.entry_eq_file (hown r hr)).mp her
      exact hno (h.single r q k (hown r hr) hq hj hk ▸ hr)
  refine ⟨⟨h.apart, fun p hp => ?_, fun p hp => (map_numberAt ?_).symm, fun p k hp hk => ?_,
    fun p q k hp hq hk hk' => ?_⟩, h'.harmless⟩
  · refine (h.homed p hp).mono ?_ hwithin
    rintro _ ⟨q, hq, rfl⟩
    exact h.toPlaced.isVacantOrFile (hown q hq)
  · by_cases ho : own p
    · exact h'.toPlaced.isVacantOrFile ho
    · have hv := h.toPlaced.isVacantOrFile hp
      unfold IsVacantOrFile at hv ⊢
      rwa [hstay p hp ho]
  · have he := entry?_of_numberAt hk
    by_cases ho : own p
    · exact h'.filed p k ho ((h'.entry_eq_file ho).mp he)
    · exact Nat.lt_of_lt_of_le (h.filed p k hp (hold p k hp ho he)) hs.length
  · have he := entry?_of_numberAt hk
    have he' := entry?_of_numberAt hk'
    by_cases ho : own p <;> by_cases ho' : own q
    · exact h'.single p q k ho ho' ((h'.entry_eq_file ho).mp he) ((h'.entry_eq_file ho').mp he')
    · exact absurd he' (hnot p q k ho hq ho' he)
    · exact absurd he (hnot q p k ho' hp ho he')
    · exact h.single p q k hp hq (hold p k hp ho he) (hold q k hq ho' he')

/-! ## 3. Paths that lead elsewhere -/

variable {spots : Place → Prop} {links : Nat} {here q : Place} {ns : List Name}
  {isSlashed b : Bool} {e : Entry}

/-- One step of a walk to what stands at its end. -/
theorem walk_look_cons (d : Disk) (links : Nat) (here : Place) {n : Name} (rest : List Name)
    (hn : isDots n = false) (isSlashed : Bool) :
    d.walk .look links here (n :: rest) isSlashed =
      if isTooLong n then .error .nameTooLong
      else match d.entry? (here ++ [n]) with
      | none => if rest.isEmpty then .ok (.named (here ++ [n]) none isSlashed) else .error .notFound
      | some .directory =>
        if rest.isEmpty then .ok (.named (here ++ [n]) (some .directory) isSlashed)
        else d.walk .look links (here ++ [n]) rest isSlashed
      | some (.link target) =>
        match links with
        | 0 => .error .tooManyLinks
        | links + 1 =>
          d.walk .look links (if target.isAbsolute then [] else here) (target.names ++ rest)
            (isSlashed || (rest.isEmpty && target.isSlashed))
      | some e =>
        if rest.isEmpty && !isSlashed then .ok (.named (here ++ [n]) (some e) isSlashed)
        else .error .notADirectory := by
  obtain ⟨h1, h2⟩ := isDots_eq_false.mp hn
  have hname : (rest.isEmpty && (Purpose.look == Purpose.name)) = false := Bool.and_false _
  have hmake : (rest.isEmpty && isSlashed && (Purpose.look == Purpose.make)) = false :=
    Bool.and_false _
  rw [walk_cons, if_neg h1, if_neg h2, hname, hmake]
  cases isTooLong n <;> rfl

/-- What is found on the way of a walk is no file, and so it is there still. -/
theorem entry?_on_way (hi : Inside d here) (hspots : ∀ o, spots o → IsVacantOrFile d o)
    (hd : DiffersAt spots d d') {n : Name} (he : d.entry? (here ++ [n]) = some e)
    (hno : ∀ k, e ≠ .file k) : d'.entry? (here ++ [n]) = some e := by
  refine (hd _ (hi.not_own hspots ?_)).trans he
  rintro (hv | ⟨k, hv⟩)
  · rw [he] at hv
    cases hv
  · rw [he] at hv
    exact hno k (Option.some.inj hv)

/-- **A walk that ends elsewhere ends there still**, by whatever links. -/
theorem walk_elsewhere (hi : Inside d here) (hspots : ∀ o, spots o → IsVacantOrFile d o)
    (hd : DiffersAt spots d d') (hq : ∀ o, spots o → ¬ o <+: q)
    (h : d.walk .look links here ns isSlashed = .ok (.named q (some e) b)) :
    d'.walk .look links here ns isSlashed = .ok (.named q (some e) b) := by
  induction links using Nat.strongRecOn generalizing here ns isSlashed with
  | ind links ihl =>
    induction ns generalizing here with
    | nil =>
      rw [walk_nil] at h
      cases h
    | cons n ns ihn =>
      by_cases h1 : n = ['.']
      · rw [walk_cons, if_pos h1] at h ⊢
        exact ihn hi h
      by_cases h2 : n = ['.', '.']
      · rw [walk_cons, if_neg h1, if_pos h2] at h ⊢
        exact ihn hi.dropLast h
      have hn : isDots n = false := isDots_eq_false.mpr ⟨h1, h2⟩
      rw [walk_look_cons _ _ _ _ hn] at h ⊢
      cases hl : isTooLong n with
      | true =>
        rw [hl, if_pos rfl] at h
        cases h
      | false =>
        rw [hl, if_neg Bool.false_ne_true] at h
        rw [if_neg Bool.false_ne_true]
        cases he : d.entry? (here ++ [n]) with
        | none =>
          rw [he] at h
          dsimp only at h
          split at h <;> cases h
        | some e' =>
          rw [he] at h
          cases e' with
          | directory =>
            rw [entry?_on_way hi hspots hd he (by simp)]
            dsimp only at h ⊢
            by_cases hlast : ns.isEmpty = true
            · rw [if_pos hlast] at h ⊢
              exact h
            · rw [if_neg hlast] at h ⊢
              exact ihn (hi.concat he) h
          | link target =>
            rw [entry?_on_way hi hspots hd he (by simp)]
            cases links with
            | zero => cases h
            | succ links =>
              refine ihl links (Nat.lt_succ_self links) ?_ h
              split
              · exact inside_nil d
              · exact hi
          | device v =>
            rw [entry?_on_way hi hspots hd he (by simp)]
            exact h
          | file k =>
            dsimp only at h ⊢
            split at h
            · cases h
              rw [hd _ hq, he]
              exact if_pos ‹_›
            · cases h

/-- **A path that leads to a file elsewhere leads to it still.** -/
theorem look?_elsewhere (hspots : ∀ o, spots o → IsVacantOrFile d o) (hd : DiffersAt spots d d')
    {k : Nat} (h : d.look? p = .ok (q, .file k)) (hq : ∀ o, spots o → ¬ o <+: q) :
    d'.look? p = .ok (q, .file k) := by
  unfold look? find at h ⊢
  cases hf : pathFault? p with
  | some c =>
    rw [hf] at h
    cases h
  | none =>
    rw [hf] at h
    dsimp only at h ⊢
    cases hw : d.walk .look mostLinks [] p.names p.isSlashed with
    | error c =>
      rw [hw] at h
      cases h
    | ok s =>
      rw [hw] at h
      rcases s with ⟨place, _ | e, b⟩ | place
      · cases h
      · cases h
        rw [walk_elsewhere (inside_nil d) hspots hd hq hw]
      · cases h

/-! ## 4. The last name -/

variable {x : Name} {left : Nat} {dir : Place}

/-- Where names lead to a directory, what is seen there is a matter of the last name. -/
theorem find_look_of_leads (hl : Leads d mostLinks [] ns left dir) (hn : p.names = ns ++ [x]) :
    d.find .look p = match pathFault? p with
      | some c => .error c
      | none => (d.walk .look left dir [x] p.isSlashed).mapError .system := by
  unfold find
  rw [hn, walk_of_leads hl .look (by simp)]
  cases pathFault? p with
  | some c => rfl
  | none => cases d.walk .look left dir [x] p.isSlashed <;> rfl

/-- **A file at the last name is what is seen**, if the name may stand there at all. -/
theorem look?_of_leads {k : Nat} (hl : Leads d mostLinks [] ns left dir)
    (hn : p.names = ns ++ [x]) (hx : isDots x = false)
    (he : d.entry? (dir ++ [x]) = some (.file k)) :
    d.look? p = match pathFault? p with
      | some c => .error c
      | none =>
        if isTooLong x then .error (.system .nameTooLong)
        else if p.isSlashed then .error (.system .notADirectory)
        else .ok (dir ++ [x], .file k) := by
  rw [look?, find_look_of_leads hl hn]
  cases pathFault? p with
  | some c => rfl
  | none =>
    rw [walk_look_cons _ _ _ _ hx, he]
    cases isTooLong x <;> cases p.isSlashed <;> rfl

/-- Where nothing stands at the last name, nothing is seen. -/
theorem hasEntry_of_leads (hl : Leads d mostLinks [] ns left dir) (hn : p.names = ns ++ [x])
    (hx : isDots x = false) (he : pathFault? p = none → d.entry? (dir ++ [x]) = none) :
    d.hasEntry p = false := by
  rw [hasEntry, look?, find_look_of_leads hl hn]
  cases hf : pathFault? p with
  | some c => rfl
  | none =>
    rw [walk_look_cons _ _ _ _ hx, he hf]
    cases isTooLong x <;> rfl

end Logworks.Disk
