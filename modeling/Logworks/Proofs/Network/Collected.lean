import Logworks.Proofs.Line.OneLine
import Logworks.Proofs.Sink.Requests
import Mathlib.Data.List.Basic

/-!
# What a collector gets

A link sends each record as one payload, over one connection after the other: when a payload is
broken off, the connection is given up, and the payload may be sent once more, whole, over the next
one. This file fixes

* `Torn` -- a connection that was given up: what it took whole, and what it broke off at;
* `Carries` -- what the connections of a link have taken, and what was tried on them: **every
  connection but the last is torn**, and the last one too if the link holds none;
* `Carries.write`, `Carries.connect` -- what one trial keeps;
* `Carries.send` -- **one record**: two writes at most, and the link holds a connection behind it if
  and only if the record was confirmed;
* `delivers_what_it_confirms` -- **what is confirmed came over whole, once and in order, and nothing
  else did**, in any run.
-/

namespace Logworks.Network

open Line Sink Text

/-! ## 1. Payloads and connections -/

/-- What is sent of a record. -/
def payloadOf (p : Parts) : Octets := wireOctets ⟨p.logger, p.level, p.message⟩

theorem payloadOf_length_pos (p : Parts) : 0 < (payloadOf p).length := by
  rw [payloadOf, wireOctets_eq, List.length_append]
  exact Nat.succ_pos _

/-- A connection that was given up: the records it took whole, the one it broke off at, and how many
octets it took of that. -/
structure Torn where
  whole : List Parts
  last : Parts
  octets : Nat

def Torn.stream (t : Torn) : Octets :=
  t.whole.flatMap payloadOf ++ (payloadOf t.last).take t.octets

namespace Trial

def isWrite : Trial → Bool
  | write .. => true
  | connect _ => false

def isConnect : Trial → Bool
  | write .. => false
  | connect _ => true

/-- The second does not write to a connection that the first broke. -/
def Heeds (first second : Trial) : Prop :=
  ∀ c, first = .write c false → ∀ isWhole, second ≠ .write c isWhole

theorem heeds_connect (first : Trial) (made : Option Nat) : Heeds first (.connect made) :=
  nofun

end Trial

/-! ## 2. Single trials -/

namespace Wire

/-- A payload is taken whole, or a proper front part of it is. -/
theorem write_cases (w : Wire) (c : Nat) {line : Octets} (some : 0 < line.length) :
    (∃ w', w.write c line = (.ok (), w') ∧ w'.streams = (w.take c line).streams ∧
      w'.trials = w.trials ++ [.write c true]) ∨
    ∃ n cause w', n < line.length ∧ w.write c line = (.error cause, w') ∧
      w'.streams = (w.take c (line.take n)).streams ∧
      w'.trials = w.trials ++ [.write c false] := by
  unfold Wire.write
  split
  · exact .inl ⟨_, rfl, rfl, rfl⟩
  · exact .inl ⟨_, rfl, rfl, rfl⟩
  · rename_i n cause rest _
    exact .inr ⟨min n (line.length - 1), cause, _, by omega, rfl, rfl, rfl⟩

theorem connect_cases (w : Wire) :
    (∃ w', w.connect = (.ok w.streams.length, w') ∧ w'.streams = w.streams ++ [[]] ∧
      w'.trials = w.trials ++ [.connect (some w.streams.length)]) ∨
    ∃ cause w', w.connect = (.error cause, w') ∧ w'.streams = w.streams ∧
      w'.trials = w.trials ++ [.connect none] := by
  unfold Wire.connect
  split
  · exact .inr ⟨_, _, rfl, rfl, rfl⟩
  · exact .inr ⟨_, _, rfl, rfl, rfl⟩
  · exact .inl ⟨_, rfl, rfl, rfl⟩

/-- The last connection takes octets behind those it has. -/
theorem streams_take {w : Wire} {earlier : List Octets} {taken : Octets}
    (h : w.streams = earlier ++ [taken]) (bytes : Octets) :
    (w.take earlier.length bytes).streams = earlier ++ [taken ++ bytes] := by
  show w.streams.set earlier.length ((w.streams[earlier.length]?).getD [] ++ bytes) = _
  rw [h, List.getElem?_concat_length, List.set_append_right _ _ (Nat.le_refl _), Nat.sub_self]
  rfl

end Wire

/-! ## 3. What the connections have taken -/

/-- **What the connections of a link have taken**, of some records of which some were confirmed,
and what was tried on them. -/
structure Carries (before : Wire) (records confirmed : List Parts) (torn : List Torn)
    (current : Option (List Parts)) (trials : List Trial) (connection : Option Nat)
    (w : Wire) : Prop where
  /-- The connections before, those that were given up, and the one that is open. -/
  streams : w.streams =
    before.streams ++ torn.map Torn.stream ++ current.toList.map (·.flatMap payloadOf)
  connection : connection = current.map fun _ => before.streams.length + torn.length
  whole : torn.flatMap Torn.whole ++ current.getD [] = confirmed
  broken : ∀ t ∈ torn,
    t.octets < (payloadOf t.last).length ∧ (t.whole ++ [t.last]).Sublist records
  kept : ∀ ps ∈ current, ps.Sublist records
  noted : w.trials = before.trials ++ trials
  heedful : trials.Pairwise Trial.Heeds
  /-- Only connections that were given up were broken. -/
  givenUp : ∀ c, .write c false ∈ trials → c < before.streams.length + torn.length

section

variable {before w : Wire} {records confirmed : List Parts} {torn : List Torn}
  {current : Option (List Parts)} {trials : List Trial} {connection : Option Nat}

/-- More records were put in. -/
theorem Carries.mono (h : Carries before records confirmed torn current trials connection w)
    {more : List Parts} (grown : records.Sublist more) :
    Carries before more confirmed torn current trials connection w :=
  { h with
    broken := fun t ht => ⟨(h.broken t ht).1, (h.broken t ht).2.trans grown⟩
    kept := fun ps hps => (h.kept ps hps).trans grown }

section

variable {ps : List Parts} {c : Nat} {p : Parts} {w' : Wire}

/-- The open connection is the last one. -/
theorem Carries.place (h : Carries before records confirmed torn (some ps) trials (some c) w) :
    c = (before.streams ++ torn.map Torn.stream).length := by
  rw [List.length_append, List.length_map]
  exact Option.some.inj h.connection

/-- The open connection was not broken. -/
theorem Carries.heeds_write
    (h : Carries before records confirmed torn (some ps) trials (some c) w) (isWhole : Bool) :
    (trials ++ [Trial.write c isWhole]).Pairwise Trial.Heeds := by
  refine List.pairwise_append.mpr ⟨h.heedful, List.pairwise_singleton _ _, ?_⟩
  intro first hfirst second hsecond k broke whole same
  rw [List.mem_singleton.mp hsecond] at same
  cases same
  have past : c < before.streams.length + torn.length := h.givenUp c (broke ▸ hfirst)
  have place : c = before.streams.length + torn.length := Option.some.inj h.connection
  omega

/-- The open connection took a payload. -/
theorem Carries.took (h : Carries before records confirmed torn (some ps) trials (some c) w)
    (ordered : (ps ++ [p]).Sublist records)
    (streams : w'.streams = (w.take c (payloadOf p)).streams)
    (noted : w'.trials = w.trials ++ [.write c true]) :
    Carries before records (confirmed ++ [p]) torn (some (ps ++ [p])) (trials ++ [.write c true])
      (some c) w' where
  streams := by
    rw [streams, h.place, Wire.streams_take h.streams]
    simp
  connection := h.connection
  whole := by
    rw [← h.whole, List.append_assoc]
    rfl
  broken := h.broken
  kept := by
    rintro _ ⟨⟩
    exact ordered
  noted := by rw [noted, h.noted, List.append_assoc]
  heedful := h.heeds_write true
  givenUp := by
    intro k hk
    rcases List.mem_append.mp hk with earlier | last
    · exact h.givenUp k earlier
    · cases List.mem_singleton.mp last

/-- The open connection broke off: it is torn now. -/
theorem Carries.broke (h : Carries before records confirmed torn (some ps) trials (some c) w)
    (ordered : (ps ++ [p]).Sublist records) {n : Nat} (less : n < (payloadOf p).length)
    (streams : w'.streams = (w.take c ((payloadOf p).take n)).streams)
    (noted : w'.trials = w.trials ++ [.write c false]) :
    Carries before records confirmed (torn ++ [⟨ps, p, n⟩]) none (trials ++ [.write c false]) none
      w' where
  streams := by
    rw [streams, h.place, Wire.streams_take h.streams]
    simp [Torn.stream]
  connection := rfl
  whole := by
    rw [← h.whole, List.flatMap_append, List.flatMap_singleton]
    exact List.append_nil _
  broken := by
    intro t ht
    rcases List.mem_append.mp ht with earlier | last
    · exact h.broken t earlier
    · rw [List.mem_singleton.mp last]
      exact ⟨less, ordered⟩
  kept := nofun
  noted := by rw [noted, h.noted, List.append_assoc]
  heedful := h.heeds_write false
  givenUp := by
    intro k hk
    rw [List.length_append, List.length_singleton]
    rcases List.mem_append.mp hk with earlier | last
    · have past := h.givenUp k earlier
      omega
    · cases List.mem_singleton.mp last
      have place : c = before.streams.length + torn.length := Option.some.inj h.connection
      omega

/-- **Writing to the open connection**: it has taken the payload then, or it is torn. -/
theorem Carries.write (h : Carries before records confirmed torn (some ps) trials (some c) w)
    (ordered : (ps ++ [p]).Sublist records) :
    (∃ w', w.write c (payloadOf p) = (.ok (), w') ∧
      Carries before records (confirmed ++ [p]) torn (some (ps ++ [p]))
        (trials ++ [.write c true]) (some c) w') ∨
    ∃ cause w' t, w.write c (payloadOf p) = (.error cause, w') ∧
      Carries before records confirmed (torn ++ [t]) none (trials ++ [.write c false]) none w' := by
  rcases w.write_cases c (payloadOf_length_pos p) with
    ⟨w', wrote, streams, noted⟩ | ⟨n, cause, w', less, failed, streams, noted⟩
  · exact .inl ⟨w', wrote, h.took ordered streams noted⟩
  · exact .inr ⟨cause, w', ⟨ps, p, n⟩, failed, h.broke ordered less streams noted⟩

end

/-- **Connecting while there is no connection**: there is a new one, or still none. -/
theorem Carries.connect
    (h : Carries before records confirmed torn none trials none w) :
    (∃ c w', w.connect = (.ok c, w') ∧
      Carries before records confirmed torn (some []) (trials ++ [.connect (some c)]) (some c) w') ∨
    ∃ cause w', w.connect = (.error cause, w') ∧
      Carries before records confirmed torn none (trials ++ [.connect none]) none w' := by
  have heedful (made : Option Nat) : (trials ++ [Trial.connect made]).Pairwise Trial.Heeds := by
    refine List.pairwise_append.mpr ⟨h.heedful, List.pairwise_singleton _ _, ?_⟩
    intro first _ second hsecond
    rw [List.mem_singleton.mp hsecond]
    exact first.heeds_connect made
  have givenUp (made : Option Nat) (k : Nat)
      (hk : Trial.write k false ∈ trials ++ [Trial.connect made]) :
      k < before.streams.length + torn.length := by
    rcases List.mem_append.mp hk with earlier | last
    · exact h.givenUp k earlier
    · cases List.mem_singleton.mp last
  have there : w.streams = before.streams ++ torn.map Torn.stream := by
    rw [h.streams]
    exact List.append_nil _
  rcases w.connect_cases with ⟨w', made, streams, noted⟩ | ⟨cause, w', failed, streams, noted⟩
  · refine .inl ⟨w.streams.length, w', made, ⟨?_, ?_, h.whole, h.broken, ?_, ?_, heedful _,
      givenUp _⟩⟩
    · rw [streams, there]
      rfl
    · rw [there, List.length_append, List.length_map]
      rfl
    · rintro _ ⟨⟩
      exact List.nil_sublist _
    · rw [noted, h.noted, List.append_assoc]
  · refine .inr ⟨cause, w', failed, ⟨streams.trans h.streams, rfl, h.whole, h.broken, nofun, ?_,
      heedful _, givenUp _⟩⟩
    rw [noted, h.noted, List.append_assoc]

/-! ## 4. One record -/

/-- What was tried for one record: so many writes at most, one attempt to connect, and a whole write
if and only if the record is confirmed. -/
structure Tries (writes : Nat) (o : Outcome) (new : List Trial) : Prop where
  writes : new.countP Trial.isWrite ≤ writes
  connects : new.countP Trial.isConnect ≤ 1
  confirmed : o = .ok ↔ ∃ c, .write c true ∈ new

/-- A write, and whether it was whole. -/
theorem tries_write (c : Nat) : Tries 1 .ok [.write c true] :=
  ⟨Nat.le_refl 1, Nat.zero_le 1, fun _ => ⟨c, List.mem_cons_self⟩, fun _ => rfl⟩

theorem tries_broken (c : Nat) (f : Fault) : Tries 1 (.failed f) [.write c false] :=
  ⟨Nat.le_refl 1, Nat.zero_le 1, nofun, by simp⟩

/-- No whole write comes of an attempt to connect, nor of a write that broke off. -/
theorem Tries.connected {o : Outcome} {new : List Trial} (h : Tries 1 o new)
    (only : new.countP Trial.isConnect = 0) (c : Nat) :
    Tries 1 o (.connect (some c) :: new) where
  writes := by
    rw [List.countP_cons]
    exact h.writes
  connects := by
    rw [List.countP_cons, only]
    exact Nat.le_refl 1
  confirmed := by simp [h.confirmed]

theorem Tries.broken {o : Outcome} {new : List Trial} (h : Tries 1 o new) (c : Nat) :
    Tries 2 o (.write c false :: new) where
  writes := by
    rw [List.countP_cons]
    exact Nat.succ_le_succ h.writes
  connects := by
    rw [List.countP_cons]
    exact h.connects
  confirmed := by simp [h.confirmed]

/-- How sending a record ends: with a connection if and only if the record is confirmed, and with
something tried if the link has a connection or may connect. -/
structure Ends (before : Wire) (records confirmed : List Parts) (p : Parts) (trials : List Trial)
    (writes : Nat) (l : Link) (r : Except Fault Unit × Link × Wire) : Prop where
  address : r.2.1.address = l.address
  reconnects : r.2.1.reconnects = l.reconnects
  connected : r.2.1.isConnected = true ↔ Outcome.ofExcept r.1 = .ok
  carries : ∃ torn current new, Tries writes (.ofExcept r.1) new ∧
    (l.reconnects = true ∨ l.isConnected = true → new ≠ []) ∧
    Carries before records (confirmed ++ Sink.confirmed [(p, .ofExcept r.1)]) torn current
      (trials ++ new) r.2.1.connection r.2.2

theorem confirmed_failed (p : Parts) (f : Fault) : Sink.confirmed [(p, .failed f)] = [] := rfl

theorem confirmed_ok (p : Parts) : Sink.confirmed [(p, .ok)] = [p] := rfl

/-- **Sending once more**, over a new connection. -/
theorem Carries.resend (h : Carries before records confirmed torn none trials none w) {p : Parts}
    (known : [p].Sublist records) (l : Link) (first : Cause) :
    Ends before records confirmed p trials 1 l (l.resend (payloadOf p) first w) := by
  rw [Link.resend]
  rcases h.connect with ⟨c, w₁, made, h₁⟩ | ⟨cause, w₁, failed, h₁⟩
  · rw [made]
    dsimp only
    rcases h₁.write known with ⟨w₂, wrote, h₂⟩ | ⟨cause, w₂, t, broke, h₂⟩
    · rw [wrote]
      rw [List.append_assoc] at h₂
      refine ⟨rfl, rfl, ⟨fun _ => rfl, fun _ => rfl⟩, torn, some ([] ++ [p]), _,
        (tries_write c).connected rfl c, fun _ => nofun, ?_⟩
      rw [Outcome.ofExcept, confirmed_ok]
      exact h₂
    · rw [broke]
      rw [List.append_assoc] at h₂
      refine ⟨rfl, rfl, ⟨nofun, nofun⟩, torn ++ [t], none, _,
        (tries_broken c _).connected rfl c, fun _ => nofun, ?_⟩
      rw [Outcome.ofExcept, confirmed_failed, List.append_nil]
      exact h₂
  · rw [failed]
    refine ⟨rfl, rfl, ⟨nofun, nofun⟩, torn, none, [.connect none],
      ⟨Nat.zero_le 1, Nat.le_refl 1, nofun, by simp⟩, fun _ => nofun, ?_⟩
    rw [Outcome.ofExcept, confirmed_failed, List.append_nil]
    exact h₁

/-- **Sending a record**: over the connection there is, and once more if that fails. -/
theorem Carries.send {l : Link}
    (h : Carries before records confirmed torn current trials l.connection w) (p : Parts) :
    Ends before (records ++ [p]) confirmed p trials 2 l (l.send (payloadOf p) w) := by
  -- the record is put in first; what becomes of it depends on the connection there is
  have h' := h.mono (List.sublist_append_left records [p])
  have known : [p].Sublist (records ++ [p]) := List.sublist_append_right records [p]
  rw [Link.send]
  cases current with
  | none =>
    have nowhere : l.connection = none := h.connection
    rw [nowhere] at h' ⊢
    dsimp only
    split
    · obtain ⟨address, reconnects, connected, torn', current', new, tries, some, carries⟩ :=
        h'.resend known l Link.notConnected
      exact ⟨address, reconnects, connected, torn', current', new,
        ⟨Nat.le_succ_of_le tries.writes, tries.connects, tries.confirmed⟩, some, carries⟩
    · rename_i single
      have lost : l.isConnected ≠ true := by
        rw [Link.isConnected, nowhere]
        nofun
      refine ⟨rfl, rfl, ⟨fun on => absurd on lost, nofun⟩, torn, none, [],
        ⟨Nat.zero_le 2, Nat.zero_le 1, nofun, by simp⟩, ?_, ?_⟩
      · rintro (again | on)
        · exact absurd again single
        · exact absurd on lost
      · rw [Outcome.ofExcept, confirmed_failed, List.append_nil, List.append_nil, nowhere]
        exact h'
  | some ps =>
    have held : l.connection = some (before.streams.length + torn.length) := h.connection
    have ordered : (ps ++ [p]).Sublist (records ++ [p]) :=
      (h.kept ps rfl).append (List.Sublist.refl [p])
    rw [held] at h' ⊢
    dsimp only
    rcases h'.write ordered with ⟨w₁, wrote, h₁⟩ | ⟨cause, w₁, t, broke, h₁⟩
    · have tries := tries_write (before.streams.length + torn.length)
      rw [wrote]
      refine ⟨rfl, rfl, ⟨fun _ => rfl, fun _ => ?_⟩, torn, some (ps ++ [p]), _,
        ⟨Nat.le_succ_of_le tries.writes, tries.connects, tries.confirmed⟩, fun _ => nofun, ?_⟩
      · rw [Link.isConnected, held]
        rfl
      · rw [Outcome.ofExcept, confirmed_ok, held]
        exact h₁
    · -- broken off: the connection is torn, and the payload goes over a new one or not at all
      rw [broke]
      dsimp only
      rw [Link.recover]
      split
      · obtain ⟨address, reconnects, connected, torn', current', new, tries, -, carries⟩ :=
          h₁.resend known l cause
        rw [List.append_assoc] at carries
        exact ⟨address, reconnects, connected, torn', current', _, tries.broken _, fun _ => nofun,
          carries⟩
      · have tries := tries_broken (before.streams.length + torn.length)
          (.network l.address cause.message)
        refine ⟨rfl, rfl, ⟨nofun, nofun⟩, torn ++ [t], none, _,
          ⟨Nat.le_succ_of_le tries.writes, tries.connects, tries.confirmed⟩, fun _ => nofun, ?_⟩
        rw [Outcome.ofExcept, confirmed_failed, List.append_nil]
        exact h₁

/-- **A link that does not reconnect sends nothing once it has no connection.** -/
theorem send_spent {l : Link} (single : l.reconnects = false) (spent : l.connection = none)
    (line : Octets) (w : Wire) : l.send line w = (.error (.unavailable l.address), l, w) := by
  rw [Link.send, spent]
  dsimp only
  rw [single]
  rfl

end

/-! ## 5. Requests -/

/-- **How a link stands behind some records**, each with what was answered. -/
structure Stands (before : Wire) (address : String) (reconnects : Bool)
    (as : List (Parts × Outcome)) (torn : List Torn) (current : Option (List Parts))
    (trials : List Trial) (l : Link) (w : Wire) : Prop where
  carries : Carries before (as.map Prod.fst) (confirmed as) torn current trials l.connection w
  named : l.address = address
  mode : l.reconnects = reconnects
  /-- After a failure a link that does not reconnect has no connection. -/
  spent : reconnects = false → (∃ a ∈ as, a.2 ≠ .ok) → l.connection = none

section

variable {before w : Wire} {address : String} {reconnects : Bool} {as : List (Parts × Outcome)}
  {torn : List Torn} {current : Option (List Parts)} {trials : List Trial} {l : Link} {site : Site}

/-- What one record comes to. -/
structure Came (before : Wire) (address : String) (reconnects : Bool) (as : List (Parts × Outcome))
    (trials : List Trial) (p : Parts) (l : Link) (w : Wire) (o : Outcome) (l' : Link)
    (w' : Wire) : Prop where
  connected : l'.isConnected = true ↔ o = .ok
  stands : ∃ torn current new, Tries 2 o new ∧
    (reconnects = true ∨ l.isConnected = true → new ≠ []) ∧
    Stands before address reconnects (as ++ [(p, o)]) torn current (trials ++ new) l' w'
  spent : reconnects = false → (∃ a ∈ as, a.2 ≠ .ok) →
    o = .failed (.unavailable address) ∧ l' = l ∧ w' = w

/-- **A record that passes is sent.** -/
theorem Stands.log (h : Stands before address reconnects as torn current trials l site.wire)
    {threshold : Level} {p : Parts} (passes : threshold.admits p.level = true) :
    ∃ o l' w', (Request.log p).perform ⟨threshold, .link l⟩ site =
        (o, ⟨threshold, .link l'⟩, { site with time := p.time, wire := w' }) ∧
      Came before address reconnects as trials p l site.wire o l' w' := by
  obtain ⟨r, l', w', sent⟩ : ∃ r l' w', l.send (payloadOf p) site.wire = (r, l', w') :=
    ⟨_, _, _, rfl⟩
  have ends := h.carries.send p
  rw [sent] at ends
  have once (single : reconnects = false) (failed : ∃ a ∈ as, a.2 ≠ .ok) :
      Outcome.ofExcept r = .failed (.unavailable address) ∧ l' = l ∧ w' = site.wire := by
    have same := send_spent (h.mode.trans single) (h.spent single failed) (payloadOf p) site.wire
    rw [sent] at same
    cases same
    exact ⟨congrArg (Outcome.failed <| .unavailable ·) h.named, rfl, rfl⟩
  refine ⟨.ofExcept r, l', w', ?_, ends.connected, ?_, once⟩
  · rw [payloadOf, wireOctets] at sent
    rw [Request.perform_passing rfl passes]
    simp only [Kind.take, sent]
  · obtain ⟨torn', current', new, tries, some, carries⟩ := ends.carries
    rw [h.mode] at some
    refine ⟨torn', current', new, tries, some, ?_, ends.address.trans h.named,
      ends.reconnects.trans h.mode, ?_⟩
    · rw [List.map_append, confirmed_append]
      exact carries
    · rintro single ⟨a, ha, failed⟩
      rcases List.mem_append.mp ha with earlier | last
      · have same := once single ⟨a, earlier, failed⟩
        rw [same.2.1]
        exact h.spent single ⟨a, earlier, failed⟩
      · rw [List.mem_singleton.mp last] at failed
        have lost : l'.isConnected ≠ true := fun on => failed (ends.connected.mp on)
        exact Option.not_isSome_iff_eq_none.mp lost

/-- A link stands somehow behind the records that were put in. -/
def Keeps (before : Wire) (address : String) (reconnects : Bool) (as : List (Parts × Outcome))
    (k : Kind) (site : Site) : Prop :=
  ∃ torn current trials l, k = .link l ∧
    Stands before address reconnects as torn current trials l site.wire

/-- **One request keeps the stand.** -/
theorem perform_keeps (as : List (Parts × Outcome)) (k : Kind) (site : Site) (threshold : Level)
    (q : Request) (h : Keeps before address reconnects as k site) :
    ∃ o k' site', q.perform ⟨threshold, k⟩ site = (o, ⟨q.next threshold, k'⟩, site') ∧ True ∧
      Keeps before address reconnects (as ++ (q.records threshold).map (·, o)) k' site' := by
  obtain ⟨torn, current, trials, l, rfl, stands⟩ := h
  have unchanged (time : Time.Instant) :
      Keeps before address reconnects (as ++ [].map (·, Outcome.ok)) (.link l)
        { site with time } := by
    rw [List.map_nil, List.append_nil]
    exact ⟨torn, current, trials, l, rfl, stands⟩
  cases q with
  | threshold level => exact ⟨.ok, _, site, rfl, trivial, unchanged site.time⟩
  | flush => exact ⟨.ok, _, site, rfl, trivial, unchanged site.time⟩
  | log p =>
    cases passes : threshold.admits p.level with
    | false =>
      refine ⟨.ok, _, _, Request.perform_below rfl passes site, trivial, ?_⟩
      rw [Request.records, passes, if_neg Bool.false_ne_true]
      exact unchanged p.time
    | true =>
      obtain ⟨o, l', w', performed, came⟩ := stands.log passes
      obtain ⟨torn', current', new, -, -, stands'⟩ := came.stands
      refine ⟨o, _, _, performed, trivial, torn', current', trials ++ new, l', rfl, ?_⟩
      rw [Request.records, passes, if_pos rfl]
      exact stands'

end

/-! ## 6. Lines -/

/-- Octets up to a line feed: a line that came over whole. -/
def isEnded (bytes : Octets) : Bool := bytes.getLast? == some lineFeed

theorem isEnded_payloadOf (p : Parts) : isEnded (payloadOf p) = true := by
  rw [isEnded, payloadOf, wireOctets_eq, List.getLast?_concat]
  rfl

/-- Payloads are lines, whatever follows. -/
theorem splitLines_payloads {ps : List Parts} (h : ∀ p ∈ ps, '\n' ∉ p.logger.toList)
    (rest : Octets) :
    splitLines (ps.flatMap payloadOf ++ rest) = ps.map payloadOf ++ splitLines rest := by
  induction ps with
  | nil => rfl
  | cons p ps ih =>
    rw [List.forall_mem_cons] at h
    rw [List.flatMap_cons, List.append_assoc, List.map_cons, List.cons_append, ← ih h.2, payloadOf,
      wireOctets_eq, List.append_assoc, List.singleton_append,
      splitLines_line (lineFeed_not_mem_lineBody h.1)]

/-- Octets without a line feed are no line. -/
theorem filter_isEnded_unended {bytes : Octets} (h : lineFeed ∉ bytes) :
    (splitLines bytes).filter isEnded = [] := by
  rw [List.filter_eq_nil_iff]
  intro line hline ended
  have within : lineFeed ∈ line := List.mem_of_getLast? (eq_of_beq ended)
  have among : lineFeed ∈ (splitLines bytes).flatten := List.mem_flatten_of_mem hline within
  rw [flatten_splitLines] at among
  exact h among

theorem filter_isEnded_payloads (ps : List Parts) :
    (ps.map payloadOf).filter isEnded = ps.map payloadOf := by
  rw [List.filter_eq_self]
  intro line hline
  obtain ⟨p, -, rfl⟩ := List.mem_map.mp hline
  exact isEnded_payloadOf p

/-- **A torn connection has the lines of the records it took whole**, and no other. -/
theorem Torn.lines {t : Torn} (proper : t.octets < (payloadOf t.last).length)
    (names : ∀ p ∈ t.whole ++ [t.last], '\n' ∉ p.logger.toList) :
    (splitLines t.stream).filter isEnded = t.whole.map payloadOf := by
  have cut : lineFeed ∉ (payloadOf t.last).take t.octets := by
    have last : '\n' ∉ t.last.logger.toList :=
      names t.last (List.mem_append_right _ List.mem_cons_self)
    rw [payloadOf, wireOctets_eq] at proper ⊢
    rw [List.length_append, List.length_singleton] at proper
    rw [List.take_append_of_le_length (Nat.le_of_lt_succ proper)]
    exact fun feed => lineFeed_not_mem_lineBody last (List.mem_of_mem_take feed)
  rw [Torn.stream, splitLines_payloads (fun p hp => names p (List.mem_append_left _ hp)),
    List.filter_append, filter_isEnded_payloads, filter_isEnded_unended cut, List.append_nil]

/-- **The lines of all connections are those of the confirmed records**, in order. -/
theorem Carries.lines {before w : Wire} {records confirmed : List Parts} {torn : List Torn}
    {current : Option (List Parts)} {trials : List Trial} {connection : Option Nat}
    (h : Carries before records confirmed torn current trials connection w)
    (names : ∀ p ∈ records, '\n' ∉ p.logger.toList) :
    ((w.streams.drop before.streams.length).flatMap splitLines).filter isEnded =
      confirmed.map payloadOf := by
  have last : (current.toList.map (·.flatMap payloadOf)).flatMap
      (fun bytes => (splitLines bytes).filter isEnded) = (current.getD []).map payloadOf := by
    cases current with
    | none => rfl
    | some ps =>
      have apart := splitLines_payloads (fun p hp => names p ((h.kept ps rfl).subset hp)) []
      rw [List.append_nil, splitLines, List.append_nil] at apart
      rw [Option.toList_some, List.map_singleton, List.flatMap_singleton, apart,
        filter_isEnded_payloads]
      rfl
  have closed : (torn.map Torn.stream).flatMap (fun bytes => (splitLines bytes).filter isEnded) =
      (torn.flatMap Torn.whole).map payloadOf := by
    rw [List.flatMap_map, List.map_flatMap]
    refine List.flatMap_congr fun t ht => ?_
    exact Torn.lines (h.broken t ht).1 fun p hp => names p ((h.broken t ht).2.subset hp)
  rw [List.filter_flatMap, h.streams, List.append_assoc, List.drop_left, List.flatMap_append, last,
    closed, ← h.whole, List.map_append]

/-! ## 7. From the start -/

/-- A link as it is made has one connection, which has taken nothing. -/
theorem stands_create {address : String} {w w₀ : Wire} {l : Link}
    (made : Link.create address w = (.ok l, w₀)) (reconnects : Bool) :
    ∃ trials, Stands w address reconnects [] [] (some []) trials { l with reconnects } w₀ := by
  have start : Carries w [] [] [] none [] none w :=
    ⟨by simp, rfl, rfl, nofun, nofun, by simp, .nil, nofun⟩
  unfold Link.create at made
  rcases start.connect with ⟨c, w', connected, h⟩ | ⟨cause, w', failed, h⟩
  · rw [connected] at made
    cases made
    refine ⟨[.connect (some c)], h, rfl, rfl, ?_⟩
    rintro - ⟨a, ha, -⟩
    cases ha
  · rw [failed] at made
    cases made

/-- **What is confirmed came over whole, once and in order, and nothing else did.** Whatever is
asked of a link, in any number of requests, and whatever happens to its connections: each connection
took payloads whole, one behind the other, and, if it was given up, a proper front part of one more;
the records that came over whole are those that were confirmed. Nothing is written to a connection
that broke. The next record takes two writes and one attempt to connect at most, and is confirmed if
and only if it was written whole, and if and only if there is a connection behind it; a link that
reconnects tries something for it, and one that does not refuses it after any failure and tries
nothing. -/
theorem delivers_what_it_confirms {address : String} {w w₀ : Wire} {l : Link}
    (made : Link.create address w = (.ok l, w₀)) (reconnects : Bool) (threshold : Level)
    (site : Site) (requests : List Request) :
    ∃ outcomes, ∃ torn : List Torn, ∃ current : Option (List Parts), ∃ trials l' level site',
      serve ⟨threshold, .link { l with reconnects }⟩ { site with wire := w₀ } requests =
        (outcomes, ⟨level, .link l'⟩, site') ∧
      site'.wire.streams = w.streams ++ torn.map Torn.stream ++
        current.toList.map (fun ps => ps.flatMap payloadOf) ∧
      (∀ t ∈ torn, t.octets < (payloadOf t.last).length ∧
        (t.whole ++ [t.last]).Sublist (recordsOf threshold requests)) ∧
      torn.flatMap Torn.whole ++ current.getD [] =
        confirmed (answered threshold requests outcomes) ∧
      ((∀ p ∈ recordsOf threshold requests, '\n' ∉ p.logger.toList) →
        ((site'.wire.streams.drop w.streams.length).flatMap splitLines).filter isEnded =
          (confirmed (answered threshold requests outcomes)).map payloadOf) ∧
      site'.wire.trials = w.trials ++ trials ∧ trials.Pairwise Trial.Heeds ∧
      ∀ p, level.admits p.level = true → ∃ o l'' w'' new,
        (Request.log p).perform ⟨level, .link l'⟩ site' =
          (o, ⟨level, .link l''⟩, { site' with time := p.time, wire := w'' }) ∧
        (l''.isConnected = true ↔ o = .ok) ∧
        w''.trials = site'.wire.trials ++ new ∧ new.countP Trial.isWrite ≤ 2 ∧
        new.countP Trial.isConnect ≤ 1 ∧ (o = .ok ↔ ∃ c, .write c true ∈ new) ∧
        (reconnects = true ∨ l'.isConnected = true → new ≠ []) ∧
        (reconnects = false → (∃ a ∈ answered threshold requests outcomes, a.2 ≠ .ok) →
          o = .failed (.unavailable address) ∧ l'' = l' ∧ w'' = site'.wire) := by
  obtain ⟨trials₀, start⟩ := stands_create made reconnects
  have begun : Keeps w address reconnects [] (.link { l with reconnects })
      { site with wire := w₀ : Site } := ⟨[], some [], trials₀, _, rfl, start⟩
  obtain ⟨os, k, site', served, length, -, torn, current, trials, l', rfl, h⟩ :=
    serve_keeps perform_keeps begun threshold requests
  rw [List.nil_append] at h
  have carries := h.carries
  rw [map_fst_answered threshold length] at carries
  refine ⟨os, torn, current, trials, l', _, site', served, carries.streams, carries.broken,
    carries.whole, carries.lines, carries.noted, carries.heedful, fun p passes => ?_⟩
  obtain ⟨o, l'', w'', performed, came⟩ := h.log passes
  obtain ⟨torn', current', new, tries, some, h'⟩ := came.stands
  refine ⟨o, l'', w'', new, performed, came.connected, ?_, tries.writes, tries.connects,
    tries.confirmed, some, came.spent⟩
  rw [h'.carries.noted, carries.noted, List.append_assoc]

/-- A wire on which the second payload breaks off behind three octets, and connecting again fails
once. -/
def faltering : Wire where
  connects := [.ok (), .error .connectionRefused, .ok ()]
  deliveries := [.whole, .broken 3 (.system .brokenPipe)]

/-- Three records for it. -/
def three : List Request :=
  [.log ⟨⟨0, 0⟩, "a", .info, "one"⟩, .log ⟨⟨1, 0⟩, "a", .warn, "two"⟩,
    .log ⟨⟨2, 0⟩, "b", .error, "three"⟩]

theorem delivers_what_it_confirms_faltering :
    Link.create "log:514" faltering = (.ok ⟨"log:514", some 0, true⟩, faltering.connect.2) ∧
      ∃ link site',
        serve ⟨.trace, .link ⟨"log:514", some 0, true⟩⟩
            { disk := .fresh [], wire := faltering.connect.2 } three =
          ([.ok, .failed (.network "log:514" ("send failed: Broken pipe (os error 32) " ++
              "(reconnect: Connection refused (os error 111))")), .ok],
            ⟨.trace, .link link⟩, site') ∧
        site'.wire.streams.flatten = octetsOf "[a] 2: one\n[a][b] 4: three\n" ∧
        (site'.wire.streams.flatMap splitLines).filter isEnded =
          [octetsOf "[a] 2: one\n", octetsOf "[b] 4: three\n"] := by
  have made : Link.create "log:514" faltering =
      (.ok ⟨"log:514", some 0, true⟩, faltering.connect.2) := rfl
  obtain ⟨outcomes, torn, current, trials, l', level, site', served, -, -, -, lines, -⟩ :=
    delivers_what_it_confirms made true .trace { disk := .fresh [] } three
  have ran : ((serve ⟨.trace, .link ⟨"log:514", some 0, true⟩⟩
        { disk := .fresh [], wire := faltering.connect.2 } three).1,
      (serve ⟨.trace, .link ⟨"log:514", some 0, true⟩⟩
        { disk := .fresh [], wire := faltering.connect.2 } three).2.1.threshold,
      (serve ⟨.trace, .link ⟨"log:514", some 0, true⟩⟩
        { disk := .fresh [], wire := faltering.connect.2 } three).2.2.wire.streams.flatten) =
      ([.ok, .failed (.network "log:514" ("send failed: Broken pipe (os error 32) " ++
        "(reconnect: Connection refused (os error 111))")), .ok], .trace,
        octetsOf "[a] 2: one\n[a][b] 4: three\n") := rfl
  rw [served] at ran
  obtain ⟨rfl, rfl, streams⟩ : outcomes = _ ∧ level = _ ∧ site'.wire.streams.flatten = _ := by
    simpa using ran
  refine ⟨made, l', site', served, streams, (lines ?_).trans ?_⟩
  · decide
  · rfl

end Logworks.Network
