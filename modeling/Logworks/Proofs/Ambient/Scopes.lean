import Logworks.Ambient

/-!
# Fields for the life of a guard

A guard sets a field and puts back what it displaced when it is dropped. Guards of different names
do not mind each other. Guards of one name are a stack: as long as none of them is dropped before a
later one, the field has the value of the newest guard that lives, and its first value again once
none does. This file fixes

* `Turn`, `after` -- guards made and dropped on one thread;
* `scopes` -- which guards live and what they set, with no thought of what they displaced; `due` --
  **the value a field is to have by them**;
* `inOrder` -- no guard of a name is dropped before a later one of that name;
* `Sound.turn` -- what one turn keeps; `field_lasts` -- **in order, a field lasts as long as its
  guard**, whatever becomes of the guards of other names;
* `due_iff_inOrder` -- **and the order is what it takes**, where no two guards of a name set it to
  the same value;
* `field_outlives_guard` -- out of order a field outlives all guards.
-/

namespace Logworks.Ambient

/-! ## 1. Turns -/

/-- What is done with guards. -/
inductive Turn where
  | push (key value : String)
  | drop (index : Nat)
  deriving DecidableEq, Repr

def turn (a : Ambient) : Turn → Ambient
  | .push key value => a.push key value
  | .drop index => a.drop index

/-- Fields and guards after some turns. -/
def after (a : Ambient) (ts : List Turn) : Ambient := ts.foldl turn a

/-- A name with the value a guard sets it to; nothing for a guard that was dropped. -/
abbrev Scope := Option (String × String)

/-- What guards are made and dropped by a turn. -/
def rescope (ss : List Scope) : Turn → List Scope
  | .push key value => ss ++ [some (key, value)]
  | .drop index => ss.set index none

/-- The guards made in some turns, in order, with what they set as long as they live. -/
def scopes (ts : List Turn) : List Scope := ts.foldl rescope []

/-- What the living guards of a name set it to, the newest one last. -/
def settings (key : String) (ss : List Scope) : List String :=
  ss.filterMap fun s => s.bind fun p => if p.1 = key then some p.2 else none

/-- The value a field is to have: that of the newest guard of its name that lives, or else the
first one. -/
def due (start : Fields) (ss : List Scope) (key : String) : Option String :=
  (settings key ss).getLast?.or (start.get? key)

/-- A turn does not drop a guard of the name before a later one. -/
def keepsOrder (key : String) (a : Ambient) : Turn → Bool
  | .push .. => true
  | .drop index =>
    match a.guards[index]? with
    | some (some g) =>
      g.key != key || (a.guards.drop (index + 1)).all fun g => g.all fun g => g.key != key
    | _ => true

/-- None of the turns does. -/
def inOrder (key : String) (a : Ambient) : List Turn → Bool
  | [] => true
  | t :: ts => a.keepsOrder key t && inOrder key (a.turn t) ts

/-! ## 2. Guards of a name -/

variable {key : String} {start : Fields}

theorem settings_append (ss more : List Scope) :
    settings key (ss ++ more) = settings key ss ++ settings key more :=
  List.filterMap_append

theorem mem_settings_iff {ss : List Scope} {value : String} :
    value ∈ settings key ss ↔ some (key, value) ∈ ss := by
  rw [settings, List.mem_filterMap]
  constructor
  · rintro ⟨s, hs, sets⟩
    obtain ⟨⟨k, v⟩, rfl, held⟩ := Option.bind_eq_some_iff.mp sets
    split at held
    · rename_i same
      rw [← Option.some.inj held, ← same]
      exact hs
    · cases held
  · exact fun hs => ⟨_, hs, if_pos rfl⟩

/-- There is nothing a name is set to exactly if no guard of the name lives. -/
theorem settings_eq_nil_iff {gs : List (Option Guard)} {ss : List Scope}
    (keys : gs.map (Option.map Guard.key) = ss.map (Option.map Prod.fst)) :
    settings key ss = [] ↔ ∀ g, some g ∈ gs → g.key ≠ key := by
  rw [List.eq_nil_iff_forall_not_mem]
  constructor
  · rintro idle g hg rfl
    have named : some g.key ∈ ss.map (Option.map Prod.fst) := keys ▸ List.mem_map_of_mem hg
    obtain ⟨s, hs, same⟩ := List.mem_map.mp named
    obtain ⟨⟨k, value⟩, rfl, rfl⟩ := Option.map_eq_some_iff.mp same
    exact idle value (mem_settings_iff.mpr hs)
  · intro idle value mem
    have named : some key ∈ gs.map (Option.map Guard.key) :=
      keys ▸ List.mem_map_of_mem (f := Option.map Prod.fst) (mem_settings_iff.mp mem)
    obtain ⟨s, hs, same⟩ := List.mem_map.mp named
    obtain ⟨g, rfl, named⟩ := Option.map_eq_some_iff.mp same
    exact idle g hs named

/-- A dropped guard leaves those before and behind it. -/
theorem settings_set {ss : List Scope} {i : Nat} (within : i < ss.length) :
    settings key (ss.set i none) = settings key (ss.take i) ++ settings key (ss.drop (i + 1)) := by
  rw [List.set_eq_take_append_cons_drop, if_pos within, settings_append]
  rfl

/-- If it is of another name, that is all there are. -/
theorem settings_set_other {ss : List Scope} {i : Nat} {p : String × String}
    (hs : ss[i]? = some (some p)) (other : p.1 ≠ key) :
    settings key (ss.set i none) = settings key ss := by
  obtain ⟨within, hs⟩ := List.getElem?_eq_some_iff.mp hs
  have split : ss = ss.take i ++ some p :: ss.drop (i + 1) := by
    rw [← hs, List.getElem_cons_drop, List.take_append_drop]
  have skipped : settings key (some p :: ss.drop (i + 1)) = settings key (ss.drop (i + 1)) :=
    List.filterMap_cons_none (if_neg other)
  calc settings key (ss.set i none)
      = settings key (ss.take i) ++ settings key (ss.drop (i + 1)) := settings_set within
    _ = settings key (ss.take i ++ some p :: ss.drop (i + 1)) := by rw [settings_append, skipped]
    _ = settings key ss := by rw [← split]

/-! ## 3. What a turn keeps -/

theorem get?_restore (f : Fields) (g : Guard) (other : String) :
    (restore f g).get? other = if other = g.key then g.previous else f.get? other := by
  unfold restore
  cases g.previous <;> simp

/-- The guards are those of the scopes, each of the name has displaced the value that was due before
it was made, and the field has the value it is to have. -/
structure Sound (start : Fields) (key : String) (a : Ambient) (ss : List Scope) : Prop where
  keys : a.guards.map (Option.map Guard.key) = ss.map (Option.map Prod.fst)
  previous : ∀ i g, a.guards[i]? = some (some g) → g.key = key →
    g.previous = due start (ss.take i) key
  shown : a.fields.get? key = due start ss key

variable {a : Ambient} {ss : List Scope}

namespace Sound

theorem length_eq (h : Sound start key a ss) : a.guards.length = ss.length := by
  simpa using congrArg List.length h.keys

theorem getElem?_eq (h : Sound start key a ss) (i : Nat) :
    a.guards[i]?.map (Option.map Guard.key) = ss[i]?.map (Option.map Prod.fst) := by
  simpa using congrArg (·[i]?) h.keys

theorem drop_keys (h : Sound start key a ss) (n : Nat) :
    (a.guards.drop n).map (Option.map Guard.key) = (ss.drop n).map (Option.map Prod.fst) := by
  rw [List.map_drop, List.map_drop, h.keys]

theorem exists_scope (h : Sound start key a ss) {i : Nat} {g : Guard}
    (hg : a.guards[i]? = some (some g)) : ∃ value, ss[i]? = some (some (g.key, value)) := by
  have keys := h.getElem?_eq i
  rw [hg] at keys
  obtain ⟨s, hs, named⟩ := Option.map_eq_some_iff.mp keys.symm
  obtain ⟨⟨k, value⟩, rfl, rfl⟩ := Option.map_eq_some_iff.mp named
  exact ⟨value, hs⟩

/-- Where no guard of the name lives, the field has its first value. -/
theorem first (h : Sound start key a ss) (idle : ∀ g, some g ∈ a.guards → g.key ≠ key) :
    a.fields.get? key = start.get? key := by
  rw [h.shown, due, (settings_eq_nil_iff h.keys).mpr idle]
  rfl

theorem push (h : Sound start key a ss) (k value : String) :
    Sound start key (a.push k value) (ss ++ [some (k, value)]) where
  keys := by simp [Ambient.push, h.keys]
  previous i g hg hk := by
    rcases Nat.lt_trichotomy i a.guards.length with before | rfl | beyond
    · rw [Ambient.push, List.getElem?_append_left before] at hg
      rw [List.take_append_of_le_length (h.length_eq ▸ Nat.le_of_lt before)]
      exact h.previous i g hg hk
    · obtain rfl : Guard.mk k (a.fields.get? k) = g := by simpa [Ambient.push] using hg
      obtain rfl : k = key := hk
      rw [h.length_eq, List.take_left]
      exact h.shown
    · rw [Ambient.push, List.getElem?_eq_none (by simp; omega)] at hg
      cases hg
  shown := by
    rw [Ambient.push, Fields.get?_insert, due, settings_append, h.shown]
    by_cases same : k = key
    · simp [settings, same]
    · simp [settings, same, Ne.symm same, due]

/-- A guard of another name may be dropped at any time. -/
theorem drop_other (h : Sound start key a ss) {i : Nat} {g : Guard}
    (hg : a.guards[i]? = some (some g)) (other : g.key ≠ key) :
    Sound start key ⟨restore a.fields g, a.guards.set i none⟩ (ss.set i none) := by
  obtain ⟨value, hs⟩ := h.exists_scope hg
  refine ⟨by simp [List.map_set, h.keys], fun j g' hg' hk => ?_, ?_⟩
  · dsimp only at hg'
    rw [List.getElem?_set] at hg'
    split at hg'
    · split at hg' <;> cases hg'
    · rw [h.previous j g' hg' hk, due, due, List.take_set]
      by_cases past : i < j
      · rw [settings_set_other (by rw [List.getElem?_take_of_lt past, hs]) other]
      · rw [List.set_eq_of_length_le (by simp; omega)]
  · rw [get?_restore, if_neg (Ne.symm other), h.shown, due, due, settings_set_other hs other]

/-- So may the newest guard of the name. -/
theorem drop_newest (h : Sound start key a ss) {i : Nat} {g : Guard}
    (hg : a.guards[i]? = some (some g)) (same : g.key = key)
    (last : ∀ g', some g' ∈ a.guards.drop (i + 1) → g'.key ≠ key) :
    Sound start key ⟨restore a.fields g, a.guards.set i none⟩ (ss.set i none) := by
  obtain ⟨value, hs⟩ := h.exists_scope hg
  have within : i < ss.length := (List.getElem?_eq_some_iff.mp hs).1
  have above : settings key (ss.drop (i + 1)) = [] :=
    (settings_eq_nil_iff (h.drop_keys (i + 1))).mpr last
  refine ⟨by simp [List.map_set, h.keys], fun j g' hg' hk => ?_, ?_⟩
  · dsimp only at hg'
    rw [List.getElem?_set] at hg'
    split at hg'
    · split at hg' <;> cases hg'
    · rename_i apart
      have before : j ≤ i := by
        refine Nat.le_of_not_lt fun past => last g' ?_ hk
        refine List.mem_of_getElem? (i := j - (i + 1)) ?_
        rw [List.getElem?_drop, show i + 1 + (j - (i + 1)) = j by omega, hg']
      rw [List.take_set_of_le before]
      exact h.previous j g' hg' hk
  · rw [get?_restore, if_pos same.symm, h.previous i g hg same, due, due,
      settings_set within, above, List.append_nil]

/-- Nothing is done about a guard that is gone. -/
theorem set_gone (h : Sound start key a ss) {i : Nat}
    (gone : ∀ g, a.guards[i]? ≠ some (some g)) : ss.set i none = ss := by
  have keys := h.getElem?_eq i
  rcases hs : ss[i]? with - | - | p
  · exact List.set_eq_of_length_le (List.getElem?_eq_none_iff.mp hs)
  · obtain ⟨within, hs⟩ := List.getElem?_eq_some_iff.mp hs
    rw [← hs, List.set_getElem_self]
  · rw [hs] at keys
    obtain ⟨g, hg, named⟩ := Option.map_eq_some_iff.mp keys
    obtain ⟨g, rfl, -⟩ := Option.map_eq_some_iff.mp named
    exact absurd hg (gone g)

/-- **What a turn keeps**, if it does not drop a guard of the name before a later one. -/
theorem turn (h : Sound start key a ss) (t : Turn) (order : a.keepsOrder key t = true) :
    Sound start key (a.turn t) (rescope ss t) := by
  cases t with
  | push k value => exact h.push k value
  | drop i =>
    rw [Ambient.turn, rescope, Ambient.drop]
    rw [keepsOrder] at order
    split
    · rename_i g hg
      rw [hg] at order
      by_cases same : g.key = key
      · refine h.drop_newest hg same fun g' hg' => ?_
        simp only [same, bne_self_eq_false, Bool.false_or, List.all_eq_true] at order
        simpa using order _ hg'
      · exact h.drop_other hg same
    · rename_i gone
      rw [h.set_gone gone]
      exact h

theorem after (h : Sound start key a ss) {ts : List Turn} (order : inOrder key a ts = true) :
    Sound start key (a.after ts) (ts.foldl rescope ss) := by
  induction ts generalizing a ss with
  | nil => exact h
  | cons t ts ih =>
    rw [inOrder, Bool.and_eq_true] at order
    exact ih (h.turn t order.1) order.2

end Sound

theorem sound_start (start : Fields) (key : String) : Sound start key { fields := start } [] where
  keys := rfl
  previous i g hg := by simp at hg
  shown := rfl

/-! ## 4. In order -/

/-- A field that lasts as long as its guards. -/
structure Lasts (start : Fields) (ts : List Turn) (key : String) (a : Ambient) : Prop where
  shown : a.fields.get? key = due start (scopes ts) key
  /-- A value that is no more the first one is that of a guard that lives. -/
  living : ∀ value, a.fields.get? key = some value → start.get? key = some value ∨
    ∃ i, a.lives i = true ∧ (scopes ts)[i]? = some (some (key, value))
  restored : (∀ g, some g ∈ a.guards → g.key ≠ key) → a.fields.get? key = start.get? key

theorem Sound.lives (h : Sound start key a ss) {i : Nat} {p : String × String}
    (hs : ss[i]? = some (some p)) : a.lives i = true := by
  have keys := h.getElem?_eq i
  rw [hs] at keys
  obtain ⟨g, hg, named⟩ := Option.map_eq_some_iff.mp keys
  obtain ⟨g, rfl, -⟩ := Option.map_eq_some_iff.mp named
  rw [Ambient.lives, hg]

/-- **A field lasts as long as its guard** if no guard of its name is dropped before a later one,
whatever becomes of the guards of other names: it always has the value of the newest guard that
lives, and its first value once none does. -/
theorem field_lasts (start : Fields) (ts : List Turn) (key : String)
    (order : inOrder key { fields := start } ts = true) :
    Lasts start ts key (after { fields := start } ts) := by
  have sound := (sound_start start key).after order
  refine ⟨sound.shown, fun value visible => ?_, sound.first⟩
  rw [sound.shown, due, Option.or_eq_some_iff] at visible
  rcases visible with newest | ⟨-, first⟩
  · obtain ⟨i, hs⟩ := List.mem_iff_getElem?.mp
      (mem_settings_iff.mp (List.mem_of_getLast? newest))
    exact .inr ⟨i, sound.lives hs, hs⟩
  · exact .inl first

/-- Guards of two names: each name in order, one name across the other. -/
def crossed : List Turn :=
  [.push "a" "1", .push "b" "2", .push "a" "3", .push "b" "4", .drop 2, .drop 0, .drop 3, .drop 1]

theorem field_lasts_crossed :
    inOrder "a" { fields := ⟨[("a", "0")]⟩ } crossed = true ∧
      (after { fields := ⟨[("a", "0")]⟩ } crossed).fields.get? "a" = some "0" := by
  have order : inOrder "a" { fields := ⟨[("a", "0")]⟩ } crossed = true := by decide
  have gone : ∀ s ∈ (after { fields := ⟨[("a", "0")]⟩ } crossed).guards, s = none := by decide
  refine ⟨order, (field_lasts ⟨[("a", "0")]⟩ crossed "a" order).restored fun g hg => ?_⟩
  cases gone _ hg

/-! ## 5. Out of order -/

/-- What the guards made in some turns set a name to, whether they live or not. -/
def installed (key : String) (ts : List Turn) : List String :=
  ts.filterMap fun
    | .push k value => if k = key then some value else none
    | .drop _ => none

/-- The first value of a name and all that it is set to are told apart. -/
def Fresh (start : Fields) (key : String) (ss : List Scope) (ts : List Turn) : Prop :=
  (start.get? key :: (settings key ss ++ installed key ts).map some).Nodup

theorem Fresh.turn {t : Turn} {ts : List Turn} (h : Fresh start key ss (t :: ts)) :
    Fresh start key (rescope ss t) ts := by
  cases t with
  | push k value =>
    have same : settings key (ss ++ [some (k, value)]) ++ installed key ts =
        settings key ss ++ installed key (.push k value :: ts) := by
      rw [settings_append, List.append_assoc]
      by_cases named : k = key <;> simp [settings, installed, named]
    rw [Fresh, rescope, same]
    exact h
  | drop i =>
    have fewer : (settings key (ss.set i none)).Sublist (settings key ss) := by
      by_cases within : i < ss.length
      · rw [settings_set within, ← settings_append, ← List.eraseIdx_eq_take_drop_succ]
        exact (List.eraseIdx_sublist ss i).filterMap _
      · have same : ss.set i none = ss := List.set_eq_of_length_le (Nat.not_lt.mp within)
        exact same.symm ▸ List.Sublist.refl _
    exact h.sublist (((fewer.append_right _).map _).cons_cons _)

/-- What an older guard has displaced is not what a newer one sets. -/
theorem Fresh.due_ne {ts : List Turn} (h : Fresh start key ss ts) {i : Nat} {value : String}
    (newer : value ∈ settings key (ss.drop i)) : due start (ss.take i) key ≠ some value := by
  rw [Fresh, ← List.take_append_drop i ss, settings_append, List.nodup_cons] at h
  obtain ⟨first, others⟩ := h
  intro older
  rw [due, Option.or_eq_some_iff] at older
  rcases older with older | ⟨-, older⟩
  · have apart : (settings key (ss.take i) ++ settings key (ss.drop i) ++ installed key ts).Nodup :=
      List.Pairwise.of_map some (fun _ _ ne e => ne (congrArg some e)) others
    exact (List.nodup_append.mp (List.nodup_append.mp apart).1).2.2 _
      (List.mem_of_getLast? older) _ newer rfl
  · rw [older] at first
    exact first (List.mem_map_of_mem (List.mem_append_left _ (List.mem_append_right _ newer)))

/-- **A turn that leaves the field as it is to be keeps the order.** -/
theorem Sound.keepsOrder_of_due (h : Sound start key a ss) {t : Turn} {ts : List Turn}
    (fresh : Fresh start key ss ts)
    (shown : (a.turn t).fields.get? key = due start (rescope ss t) key) :
    a.keepsOrder key t = true := by
  cases t with
  | push k value => rfl
  | drop i =>
    rw [keepsOrder]
    split
    · rename_i g hg
      by_cases same : g.key = key
      · obtain ⟨value, hs⟩ := h.exists_scope hg
        have within : i < ss.length := (List.getElem?_eq_some_iff.mp hs).1
        have put : (a.turn (.drop i)).fields.get? key = due start (ss.take i) key := by
          rw [Ambient.turn, Ambient.drop, hg, get?_restore, if_pos same.symm,
            h.previous i g hg same]
        have idle : settings key (ss.drop (i + 1)) = [] := by
          rcases List.eq_nil_or_concat (settings key (ss.drop (i + 1))) with none | ⟨_, w, newest⟩
          · exact none
          · -- a later guard would be the newest one now
            have now : due start (ss.set i Option.none) key = some w := by
              rw [due, settings_set within, newest]
              simp
            have newer : w ∈ settings key (ss.drop i) := by
              have later : ss.drop (i + 1) = (ss.drop i).drop 1 := by rw [List.drop_drop]
              refine ((List.drop_sublist 1 (ss.drop i)).filterMap _).subset ?_
              rw [← settings, ← later, newest]
              simp
            exact absurd (put.symm.trans (shown.trans now)) (fresh.due_ne newer)
        have others := (settings_eq_nil_iff (h.drop_keys (i + 1))).mp idle
        rw [Bool.or_eq_true, List.all_eq_true]
        refine .inr fun s hs => ?_
        cases s with
        | none => rfl
        | some g' => simpa using others g' hs
      · simp [same]
    · rfl

theorem Sound.inOrder_of_due (h : Sound start key a ss) {ts : List Turn}
    (fresh : Fresh start key ss ts)
    (shown : ∀ n, (a.after (ts.take n)).fields.get? key =
      due start ((ts.take n).foldl rescope ss) key) : inOrder key a ts = true := by
  induction ts generalizing a ss with
  | nil => rfl
  | cons t ts ih =>
    have kept := h.keepsOrder_of_due fresh (shown 1)
    rw [inOrder, kept, Bool.true_and]
    exact ih (h.turn t kept) fresh.turn fun n => shown (n + 1)

theorem inOrder_take {ts : List Turn} (order : inOrder key a ts = true) (n : Nat) :
    inOrder key a (ts.take n) = true := by
  induction ts generalizing a n with
  | nil => rw [List.take_nil, inOrder]
  | cons t ts ih =>
    cases n with
    | zero => rfl
    | succ n =>
      rw [inOrder, Bool.and_eq_true] at order
      rw [List.take_succ_cons, inOrder, order.1, Bool.true_and]
      exact ih order.2 n

/-- **The order is what it takes**: where the guards of a name set it to values of their own, the
field is always as it is to be exactly if they are dropped in order. -/
theorem due_iff_inOrder {ts : List Turn} (fresh : Fresh start key [] ts) :
    (∀ n, (after { fields := start } (ts.take n)).fields.get? key =
      due start (scopes (ts.take n)) key) ↔ inOrder key { fields := start } ts = true :=
  ⟨(sound_start start key).inOrder_of_due fresh,
    fun order n => ((sound_start start key).after (inOrder_take order n)).shown⟩

/-- **Out of order a field outlives all guards**: the outer one is dropped first, and the inner one
puts back what the outer one has set. -/
theorem field_outlives_guard :
    ¬ ∀ (start : Fields) (ts : List Turn),
      (∀ g ∈ (after { fields := start } ts).guards, g = none) →
        ∀ key, (after { fields := start } ts).fields.get? key = start.get? key := by
  intro h
  have restored := h {} [.push "k" "outer", .push "k" "inner", .drop 0, .drop 1] (by decide) "k"
  exact absurd restored (by decide)

end Logworks.Ambient
