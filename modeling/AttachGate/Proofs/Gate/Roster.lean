import AttachGate.Proofs.Gate.Accounts

/-!
# Who is attached

The streams attached to a session are told by their accounts: a stream attends
once its call to attach has been taken and until its call to detach is.  Every
ticket that waits to be taken is some stream's, and no two streams wait for one
ticket; so each ticket that a worker takes changes the count and the roster of
its session alike.
-/

namespace AttachGate.Gate

open Session (Purpose)

def ticket? (g : Gate) (k n : Nat) : Option (Purpose × Bool) :=
  (g.sessions[k]?).bind fun s => s.ticket? n

theorem ticket?_of_session {g : Gate} {k : Nat} {s : Session} (hs : g.sessions[k]? = some s)
    (n : Nat) : g.ticket? k n = s.ticket? n := by
  simp [ticket?, hs]

inductive Attends (g : Gate) (i k : Nat) : Prop
  | taken (n : Nat) (haccount : g.account? i = some (.waiting .attach k n))
    (hticket : g.ticket? k n = some (.attach, true))
  | inside (haccount : g.account? i = some (.due .detach k))
  | untaken (n : Nat) (haccount : g.account? i = some (.waiting .detach k n))
    (hticket : g.ticket? k n = some (.detach, false))

theorem attends_iff {g : Gate} {i k : Nat} : Attends g i k ↔
    (∃ n, g.account? i = some (.waiting .attach k n) ∧ g.ticket? k n = some (.attach, true)) ∨
    g.account? i = some (.due .detach k) ∨
    ∃ n, g.account? i = some (.waiting .detach k n) ∧ g.ticket? k n = some (.detach, false) := by
  constructor
  · intro hattends
    cases hattends with
    | taken n haccount hticket => exact .inl ⟨n, haccount, hticket⟩
    | inside haccount => exact .inr (.inl haccount)
    | untaken n haccount hticket => exact .inr (.inr ⟨n, haccount, hticket⟩)
  · intro hcases
    rcases hcases with ⟨n, haccount, hticket⟩ | haccount | ⟨n, haccount, hticket⟩
    · exact .taken n haccount hticket
    · exact .inside haccount
    · exact .untaken n haccount hticket

/-- Whether a stream attends is told by its account and the ticket it waits with. -/
theorem attends_congr {g h : Gate} {i k : Nat} (haccount : h.account? i = g.account? i)
    (htickets : ∀ p n, g.account? i = some (.waiting p k n) → h.ticket? k n = g.ticket? k n) :
    Attends h i k ↔ Attends g i k := by
  have hwaiting : ∀ p n t,
      g.account? i = some (.waiting p k n) ∧ h.ticket? k n = some t ↔
        g.account? i = some (.waiting p k n) ∧ g.ticket? k n = some t := by
    intro p n t
    apply and_congr_right
    intro hwaits
    rw [htickets p n hwaits]
  simp only [attends_iff, haccount, hwaiting]

structure Booked (g : Gate) : Prop where
  housed : Housed g
  held : ∀ i p k n, g.account? i = some (.waiting p k n) →
    ∃ taken, g.ticket? k n = some (p, taken)
  apart : ∀ i j p q k n, g.account? i = some (.waiting p k n) →
    g.account? j = some (.waiting q k n) → i = j
  claimed : ∀ k n p, g.ticket? k n = some (p, false) → ∃ i, g.account? i = some (.waiting p k n)
  sane : ∀ (k : Nat) (s : Session), g.sessions[k]? = some s → s.Sane
  roster : ∀ (k : Nat) (s : Session), g.sessions[k]? = some s → ∃ roster : List Nat, roster.Nodup ∧
    roster.length = s.count ∧ ∀ i, i ∈ roster ↔ Attends g i k

theorem account?_of_create {openTimeout : Option Number} {maxStreams : Int} {cluster : Cluster}
    {g : Gate} (hg : create openTimeout maxStreams cluster = .ok g) :
    g.sessions = [] ∧ ∀ i, g.account? i = none := by
  unfold create at hg
  split at hg
  · cases hg
  · cases hg
    exact ⟨rfl, fun _ => rfl⟩

theorem booked_create {openTimeout : Option Number} {maxStreams : Int} {cluster : Cluster}
    {g : Gate} (hg : create openTimeout maxStreams cluster = .ok g) : Booked g := by
  obtain ⟨hsessions, haccounts⟩ := account?_of_create hg
  constructor <;> simp [Housed, haccounts, hsessions, ticket?]

/-- A stream that has nothing to do with any session does not attend. -/
theorem not_attends_of_before {g : Gate} {i : Nat}
    (hfrom : g.account? i = none ∨ g.account? i = some .before) (k : Nat) : ¬ Attends g i k := by
  rw [attends_iff]
  rcases hfrom with hfrom | hfrom <;> simp [hfrom]

theorem sessionFor_cases (g : Gate) (app : App.Id) :
    (∃ s, g.sessions[(g.sessionFor app).1]? = some s ∧ s.app.same app = true ∧
      (g.sessionFor app).2 = g) ∨
    (∀ s ∈ g.sessions, s.app.same app = false) ∧ (g.sessionFor app).1 = g.sessions.length ∧
      (g.sessionFor app).2.sessions = g.sessions ++ [.create app] := by
  unfold sessionFor
  cases hfound : g.sessions.findIdx? fun s => s.app.same app with
  | some k =>
      obtain ⟨hlt, hsame, _⟩ := List.findIdx?_eq_some_iff_getElem.mp hfound
      exact .inl ⟨g.sessions[k], List.getElem?_eq_getElem hlt, hsame, rfl⟩
  | none =>
      right
      refine ⟨?_, rfl, rfl⟩
      intro s hs
      simpa using List.findIdx?_eq_none_iff.mp hfound s hs

namespace Booked

variable {g h : Gate}

/-- A stream that waits to be detached attends until then. -/
theorem count_pos (hg : Booked g) {k : Nat} {s : Session} (hs : g.sessions[k]? = some s) {n : Nat}
    (hticket : s.ticket? n = some (.detach, false)) : 0 < s.count := by
  rw [← ticket?_of_session hs] at hticket
  obtain ⟨i, haccount⟩ := hg.claimed k n .detach hticket
  obtain ⟨roster, _, hlength, hmem⟩ := hg.roster k s hs
  have hi : i ∈ roster := (hmem i).mpr (.untaken n haccount hticket)
  rw [← hlength]
  exact List.length_pos_of_mem hi

/-- A stream attends as it did if its account and its tickets are as they were. -/
theorem attends_of_kept (hg : Booked g)
    (hkept : ∀ k n t, g.ticket? k n = some t → h.ticket? k n = some t) {i : Nat}
    (haccount : h.account? i = g.account? i) (k : Nat) : Attends h i k ↔ Attends g i k := by
  apply attends_congr haccount
  intro p n hwaiting
  obtain ⟨taken, htaken⟩ := hg.held i p k n hwaiting
  rw [htaken, hkept k n _ htaken]

/-! ## Streams by themselves -/

/-- All accounts and all tickets are as they were. -/
theorem of_accounts (hg : Booked g) (haccounts : ∀ i, h.account? i = g.account? i)
    (htickets : ∀ k n, h.ticket? k n = g.ticket? k n)
    (hlength : h.sessions.length = g.sessions.length)
    (hsessions : ∀ (k : Nat) (t : Session), h.sessions[k]? = some t →
      t.Sane ∧ ∃ s, g.sessions[k]? = some s ∧ t.count = s.count) : Booked h := by
  have hattends : ∀ i k, Attends h i k ↔ Attends g i k := by
    intro i k
    apply hg.attends_of_kept _ (haccounts i)
    intro k n t ht
    rw [htickets, ht]
  constructor
  · simpa only [Housed, haccounts, hlength] using hg.housed
  · simpa only [haccounts, htickets] using hg.held
  · simpa only [haccounts] using hg.apart
  · simpa only [haccounts, htickets] using hg.claimed
  · intro k t ht
    exact (hsessions k t ht).1
  · intro k t ht
    obtain ⟨_, s, hs, hcount⟩ := hsessions k t ht
    simpa only [hattends, hcount] using hg.roster k s hs

theorem of_same (hg : Booked g) (haccounts : ∀ i, h.account? i = g.account? i)
    (hsessions : h.sessions = g.sessions) : Booked h := by
  apply hg.of_accounts haccounts
  · intro k n
    simp only [ticket?, hsessions]
  · rw [hsessions]
  · intro k t ht
    rw [hsessions] at ht
    exact ⟨hg.sane k t ht, t, ht, rfl⟩

/-- A stream attends no session that there is not. -/
theorem not_attends_of_none (hg : Booked g) {k : Nat} (hnone : g.sessions[k]? = none) (i : Nat) :
    ¬ Attends g i k := by
  intro hattends
  have hticket : ∀ n, g.ticket? k n = none := by
    intro n
    simp [ticket?, hnone]
  cases hattends with
  | taken n _ htaken => rw [hticket] at htaken; cases htaken
  | inside haccount =>
      have hlt := hg.housed i .detach k haccount
      have hge := List.getElem?_eq_none_iff.mp hnone
      omega
  | untaken n _ htaken => rw [hticket] at htaken; cases htaken

/-- One stream goes on without calling a session and without leaving a ticket
behind; there may be a new session that nobody has called. -/
theorem of_marks (hg : Booked g) {i : Nat} {a : Account} (haccounts : Marks g h i a)
    (hlength : g.sessions.length ≤ h.sessions.length)
    (hsessions : ∀ (k : Nat) (s : Session), h.sessions[k]? = some s → g.sessions[k]? = some s ∨
      g.sessions[k]? = none ∧ ∃ app, s = .create app)
    (htickets : ∀ k n, h.ticket? k n = g.ticket? k n)
    (hdue : ∀ p k, a = .due p k → k < h.sessions.length)
    (hwaiting : ∀ p k n, a ≠ .waiting p k n)
    (hleft : ∀ p k n, g.account? i = some (.waiting p k n) → g.ticket? k n ≠ some (p, false))
    (hattends : ∀ k, a = .due .detach k ↔ Attends g i k) : Booked h := by
  have hself : h.account? i = some a := by rw [haccounts, if_pos rfl]
  have hother : ∀ j, j ≠ i → h.account? j = g.account? j := by
    intro j hj
    rw [haccounts, if_neg hj]
  have hsame : ∀ j k, Attends h j k ↔ Attends g j k := by
    intro j k
    by_cases hj : j = i
    · subst hj
      rw [← hattends k, attends_iff, hself]
      simp [hwaiting]
    · apply hg.attends_of_kept _ (hother j hj)
      intro k n t ht
      rw [htickets, ht]
  have hbefore : ∀ j p k n, h.account? j = some (.waiting p k n) →
      g.account? j = some (.waiting p k n) := by
    intro j p k n haccount
    have hj : j ≠ i := by
      rintro rfl
      rw [hself, Option.some.injEq] at haccount
      exact hwaiting _ _ _ haccount
    exact (hother j hj).symm.trans haccount
  constructor
  · intro j p k haccount
    by_cases hj : j = i
    · subst hj
      rw [hself, Option.some.injEq] at haccount
      exact hdue p k haccount
    · have hlt := hg.housed j p k ((hother j hj).symm.trans haccount)
      omega
  · intro j p k n haccount
    rw [htickets]
    exact hg.held j p k n (hbefore j p k n haccount)
  · intro j l p q k n hj hl
    exact hg.apart j l p q k n (hbefore j p k n hj) (hbefore l q k n hl)
  · intro k n p hticket
    rw [htickets] at hticket
    obtain ⟨j, haccount⟩ := hg.claimed k n p hticket
    have hj : j ≠ i := by
      rintro rfl
      exact hleft p k n haccount hticket
    exact ⟨j, (hother j hj).trans haccount⟩
  · intro k s hs
    rcases hsessions k s hs with hold | ⟨_, app, rfl⟩
    · exact hg.sane k s hold
    · exact Session.sane_create app
  · intro k s hs
    simp only [hsame]
    rcases hsessions k s hs with hold | ⟨hnone, app, rfl⟩
    · exact hg.roster k s hold
    · refine ⟨[], List.nodup_nil, rfl, ?_⟩
      intro j
      simpa using hg.not_attends_of_none hnone j

/-! ## Sessions -/

theorem sessions_set {k : Nat} {s : Session} (hs : g.sessions[k]? = some s) (t : Session)
    (j : Nat) : (g.sessions.set k t)[j]? = if j = k then some t else g.sessions[j]? := by
  have hlt := (List.getElem?_eq_some_iff.mp hs).1
  by_cases hj : j = k
  · subst hj
    simp [hlt]
  · simp [hj, Ne.symm hj]

theorem ticket?_set {k : Nat} {s t : Session} (hs : g.sessions[k]? = some s)
    (hsessions : h.sessions = g.sessions.set k t) (j n : Nat) :
    h.ticket? j n = if j = k then t.ticket? n else g.ticket? j n := by
  simp only [ticket?, hsessions, sessions_set hs]
  by_cases hj : j = k <;> simp [hj]

/-- A stream that is due calls its session: it gets a ticket that nobody had. -/
theorem called (hg : Booked g) {i k : Nat} {errand : Session.Errand} {cancelled : Bool}
    {s : Session} (hfrom : g.account? i = some (.due errand.purpose k))
    (hs : g.sessions[k]? = some s)
    (haccounts : Marks g h i (.waiting errand.purpose k s.callers.length))
    (hsessions : h.sessions = g.sessions.set k (s.call errand cancelled).2) : Booked h := by
  have hself : h.account? i = some (.waiting errand.purpose k s.callers.length) := by
    rw [haccounts, if_pos rfl]
  have hother : ∀ j, j ≠ i → h.account? j = g.account? j := by
    intro j hj
    rw [haccounts, if_neg hj]
  have hnone : g.ticket? k s.callers.length = none := by
    rw [ticket?_of_session hs, Session.ticket?_length]
  have htickets : ∀ j n, h.ticket? j n = if j = k ∧ n = s.callers.length
      then some (errand.purpose, false) else g.ticket? j n := by
    intro j n
    rw [ticket?_set hs hsessions, Session.ticket?_call]
    by_cases hj : j = k
    · subst hj
      simp [ticket?_of_session hs]
    · simp [hj]
  have hkept : ∀ j n t, g.ticket? j n = some t → h.ticket? j n = some t := by
    intro j n t ht
    rw [htickets, if_neg, ht]
    rintro ⟨rfl, rfl⟩
    rw [hnone] at ht
    cases ht
  have hticket : h.ticket? k s.callers.length = some (errand.purpose, false) := by
    rw [htickets, if_pos ⟨rfl, rfl⟩]
  have hsame : ∀ j l, Attends h j l ↔ Attends g j l := by
    intro j l
    by_cases hj : j = i
    · subst hj
      rw [attends_iff, attends_iff, hself, hfrom]
      by_cases hl : k = l
      · subst hl
        cases hpurpose : errand.purpose <;> simp [hticket, hpurpose]
      · simp [hl]
    · exact hg.attends_of_kept hkept (hother j hj) l
  constructor
  · intro j p l haccount
    have hj : j ≠ i := by
      rintro rfl
      rw [hself] at haccount
      cases haccount
    rw [hsessions, List.length_set]
    exact hg.housed j p l ((hother j hj).symm.trans haccount)
  · intro j p l n haccount
    by_cases hj : j = i
    · subst hj
      rw [hself, Option.some.injEq, Account.waiting.injEq] at haccount
      obtain ⟨rfl, rfl, rfl⟩ := haccount
      exact ⟨false, hticket⟩
    · obtain ⟨taken, htaken⟩ := hg.held j p l n ((hother j hj).symm.trans haccount)
      exact ⟨taken, hkept l n _ htaken⟩
  · -- nobody else waits for the new ticket
    have hfresh : ∀ j p, j ≠ i → h.account? j ≠ some (.waiting p k s.callers.length) := by
      intro j p hj haccount
      rw [hother j hj] at haccount
      obtain ⟨taken, htaken⟩ := hg.held j p k _ haccount
      rw [hnone] at htaken
      cases htaken
    intro j l p q m n hj hl
    by_cases hji : j = i
    · by_cases hli : l = i
      · exact hji.trans hli.symm
      · rw [hji, hself, Option.some.injEq, Account.waiting.injEq] at hj
        obtain ⟨_, rfl, rfl⟩ := hj
        exact (hfresh l q hli hl).elim
    · by_cases hli : l = i
      · rw [hli, hself, Option.some.injEq, Account.waiting.injEq] at hl
        obtain ⟨_, rfl, rfl⟩ := hl
        exact (hfresh j p hji hj).elim
      · exact hg.apart j l p q m n ((hother j hji).symm.trans hj) ((hother l hli).symm.trans hl)
  · intro l n p hwaits
    rw [htickets] at hwaits
    split at hwaits
    · rename_i hnew
      obtain ⟨rfl, rfl⟩ := hnew
      have hpurpose : errand.purpose = p := by simpa using hwaits
      exact ⟨i, hpurpose ▸ hself⟩
    · obtain ⟨j, haccount⟩ := hg.claimed l n p hwaits
      have hj : j ≠ i := by
        rintro rfl
        rw [hfrom] at haccount
        cases haccount
      exact ⟨j, (hother j hj).trans haccount⟩
  · intro l t ht
    rw [hsessions, sessions_set hs] at ht
    split at ht
    · cases ht
      apply Session.Sane.after (w := ⟨s, g.cluster⟩) (hg.sane k s hs) (.call errand cancelled)
      intro n hn
      exact hg.count_pos hs hn
    · exact hg.sane l t ht
  · intro l t ht
    simp only [hsame]
    rw [hsessions, sessions_set hs] at ht
    split at ht
    · rename_i hl
      cases ht
      exact hl ▸ hg.roster k s hs
    · exact hg.roster l t ht

/-! ### A worker takes a ticket -/

section Takes

variable {k : Nat} {s t : Session} (hs : g.sessions[k]? = some s) {n : Nat} {p : Purpose}
  (haccounts : ∀ i, h.account? i = g.account? i) (hsessions : h.sessions = g.sessions.set k t)
  (htakes : Session.Takes s t n p)

include hs hsessions htakes

theorem ticket?_takes (j m : Nat) :
    h.ticket? j m = if j = k ∧ m = n then some (p, true) else g.ticket? j m := by
  rw [ticket?_set hs hsessions, htakes.tickets]
  by_cases hj : j = k
  · subst hj
    simp [ticket?_of_session hs]
  · simp [hj]

include haccounts

variable {i : Nat} (hi : g.account? i = some (.waiting p k n))

include hi

/-- Nobody else joins or leaves a session. -/
theorem attends_takes_of_ne (hg : Booked g) {j l : Nat} (hne : ¬ (j = i ∧ l = k)) :
    Attends h j l ↔ Attends g j l := by
  apply attends_congr (haccounts j)
  intro q m hwaiting
  rw [ticket?_takes hs hsessions htakes, if_neg]
  intro hboth
  obtain ⟨rfl, rfl⟩ := hboth
  exact hne ⟨hg.apart j i q p l m hwaiting hi, rfl⟩

/-- The stream that waits for the ticket does. -/
theorem attends_takes (l : Nat) (hl : l = k) :
    (Attends g i l ↔ p = .detach) ∧ (Attends h i l ↔ p = .attach) := by
  subst hl
  have hbefore : g.ticket? l n = some (p, false) := by
    rw [ticket?_of_session hs]
    exact htakes.untaken
  have hafter : h.ticket? l n = some (p, true) := by
    rw [ticket?_takes hs hsessions htakes, if_pos ⟨rfl, rfl⟩]
  have hi' := (haccounts i).trans hi
  rw [attends_iff, attends_iff, hi, hi']
  cases p <;> simp [hbefore, hafter]

theorem roster_takes (hg : Booked g) {l : Nat} {u : Session} (hu : h.sessions[l]? = some u) :
    ∃ roster : List Nat, roster.Nodup ∧ roster.length = u.count ∧
      ∀ j, j ∈ roster ↔ Attends h j l := by
  have hother := @attends_takes_of_ne g h k s t hs n p haccounts hsessions htakes i hi hg
  rw [hsessions, sessions_set hs] at hu
  by_cases hl : l = k
  · rw [if_pos hl, Option.some.injEq] at hu
    subst hu
    obtain ⟨hfrom, hto⟩ := attends_takes hs haccounts hsessions htakes hi l hl
    subst hl
    obtain ⟨roster, hnodup, hlength, hmem⟩ := hg.roster l s hs
    have hcount := htakes.count
    cases p with
    | attach =>
        have habsent : i ∉ roster := by
          rw [hmem, hfrom]
          nofun
        refine ⟨i :: roster, List.nodup_cons.mpr ⟨habsent, hnodup⟩, ?_, ?_⟩
        · rw [List.length_cons, hlength, hcount]
          rfl
        · intro j
          by_cases hj : j = i
          · subst hj
            simp [hto]
          · rw [hother (fun hboth => hj hboth.1), ← hmem j]
            simp [hj]
    | detach =>
        have hpresent : i ∈ roster := by rw [hmem, hfrom]
        refine ⟨roster.erase i, hnodup.erase i, ?_, ?_⟩
        · rw [List.length_erase_of_mem hpresent, hlength, hcount]
          rfl
        · intro j
          rw [hnodup.mem_erase_iff]
          by_cases hj : j = i
          · subst hj
            simp [hto]
          · rw [hother (fun hboth => hj hboth.1), ← hmem j]
            simp [hj]
  · rw [if_neg hl] at hu
    obtain ⟨roster, hnodup, hlength, hmem⟩ := hg.roster l u hu
    refine ⟨roster, hnodup, hlength, ?_⟩
    intro j
    rw [hmem j, hother (fun hboth => hl hboth.2)]

end Takes

/-- The stream whose ticket a worker takes joins the roster or leaves it. -/
theorem takes (hg : Booked g) {k : Nat} {s t : Session} (hs : g.sessions[k]? = some s) {n : Nat}
    {p : Purpose} (haccounts : ∀ i, h.account? i = g.account? i)
    (hsessions : h.sessions = g.sessions.set k t) (htakes : Session.Takes s t n p)
    (hsane : t.Sane) : Booked h := by
  have htickets := ticket?_takes hs hsessions htakes
  have hbefore : g.ticket? k n = some (p, false) := by
    rw [ticket?_of_session hs]
    exact htakes.untaken
  obtain ⟨i, hi⟩ := hg.claimed k n p hbefore
  constructor
  · intro j q l haccount
    rw [hsessions, List.length_set]
    exact hg.housed j q l ((haccounts j).symm.trans haccount)
  · intro j q l m haccount
    rw [haccounts] at haccount
    obtain ⟨taken, htaken⟩ := hg.held j q l m haccount
    rw [htickets]
    split
    · rename_i hnew
      obtain ⟨rfl, rfl⟩ := hnew
      rw [hbefore, Option.some.injEq, Prod.mk.injEq] at htaken
      exact ⟨true, by rw [htaken.1]⟩
    · exact ⟨taken, htaken⟩
  · simpa only [haccounts] using hg.apart
  · intro l m q hwaits
    rw [htickets] at hwaits
    split at hwaits
    · cases hwaits
    · obtain ⟨j, haccount⟩ := hg.claimed l m q hwaits
      exact ⟨j, (haccounts j).trans haccount⟩
  · intro l u hu
    rw [hsessions, sessions_set hs] at hu
    split at hu
    · cases hu
      exact hsane
    · exact hg.sane l u hu
  · intro l u hu
    exact roster_takes hs haccounts hsessions htakes hi hg hu

/-- A session makes a move that is no call. -/
theorem moved (hg : Booked g) {k : Nat} {s : Session} {m : Session.Move}
    (hm : ∀ errand cancelled, m ≠ .call errand cancelled) (hs : g.sessions[k]? = some s)
    (haccounts : ∀ i, h.account? i = g.account? i)
    (hsessions : h.sessions =
      g.sessions.set k (Session.Scene.after ⟨s, g.cluster⟩ m).session) : Booked h := by
  have hsane := hg.sane k s hs
  have hsane' : (Session.Scene.after ⟨s, g.cluster⟩ m).session.Sane :=
    Session.Sane.after (w := ⟨s, g.cluster⟩) hsane m fun n hn => hg.count_pos hs hn
  have hsound : Session.Scene.Sound ⟨s, g.cluster⟩ := ⟨hsane.consistent, hsane.posted⟩
  rcases Session.takes_after hsound hm with ⟨hquiet, hcount⟩ | ⟨_, n, errand, _, htakes⟩
  · apply hg.of_accounts haccounts
    · intro j n
      rw [ticket?_set hs hsessions, hquiet]
      by_cases hj : j = k
      · subst hj
        simp [ticket?_of_session hs]
      · simp [hj]
    · rw [hsessions, List.length_set]
    · intro j t ht
      rw [hsessions, sessions_set hs] at ht
      split at ht
      · rename_i hj
        cases ht
        exact ⟨hsane', s, hj ▸ hs, hcount⟩
      · exact ⟨hg.sane j t ht, t, ht, rfl⟩
  · exact hg.takes hs haccounts hsessions htakes hsane'

theorem taken_of_outcome (hg : Booked g) {i k n : Nat} {p : Purpose} {outcome : Change.Outcome}
    (hwaiting : g.account? i = some (.waiting p k n)) (hover : g.outcome? k n = some outcome) :
    g.ticket? k n = some (p, true) := by
  obtain ⟨taken, hticket⟩ := hg.held i p k n hwaiting
  simp only [outcome?, Option.bind_eq_some_iff] at hover
  obtain ⟨c, ⟨s, hs, hc⟩, houtcome⟩ := hover
  have hstanding := Session.Caller.standing_of_outcome? houtcome
  have htaken : c.isTaken = true := by simp [Session.Caller.isTaken, hstanding]
  rw [ticket?_of_session hs, Session.ticket?, hc, Option.map_some, htaken] at hticket
  rw [ticket?_of_session hs, Session.ticket?, hc, Option.map_some, htaken]
  simp only [Option.some.injEq, Prod.mk.injEq] at hticket ⊢
  exact ⟨hticket.1, trivial⟩

/-- A stream's call of a session is over, and the stream goes on. -/
theorem answered (hg : Booked g) {i k n : Nat} {p : Purpose} {outcome : Change.Outcome}
    (hfrom : g.account? i = some (.waiting p k n)) (hover : g.outcome? k n = some outcome)
    (haccounts : Marks g h i (.next k p)) (hsessions : h.sessions = g.sessions) : Booked h := by
  have htaken := hg.taken_of_outcome hfrom hover
  apply hg.of_marks haccounts
  · exact Nat.le_of_eq (congrArg List.length hsessions).symm
  · intro l s hs
    exact .inl (hsessions ▸ hs)
  · intro l m
    simp only [ticket?, hsessions]
  · intro q l hdue
    have hl : l = k := by
      cases p with
      | attach => cases hdue; rfl
      | detach => cases hdue
    obtain ⟨s, hs⟩ : ∃ s, g.sessions[k]? = some s := by
      simp only [ticket?, Option.bind_eq_some_iff] at htaken
      obtain ⟨s, hs, _⟩ := htaken
      exact ⟨s, hs⟩
    rw [hsessions, hl]
    exact (List.getElem?_eq_some_iff.mp hs).1
  · intro q l m hwaiting
    cases p <;> cases hwaiting
  · intro q l m hwaiting
    rw [hfrom, Option.some.injEq, Account.waiting.injEq] at hwaiting
    obtain ⟨rfl, rfl, rfl⟩ := hwaiting
    rw [htaken]
    simp
  · intro l
    rw [attends_iff, hfrom]
    by_cases hl : k = l
    · subst hl
      cases p <;> simp [Account.next, htaken]
    · cases p <;> simp [Account.next, hl]

/-- A stream joins the session of its app. -/
theorem joined (hg : Booked g) {i : Nat} {app : App.Id} (hfrom : g.account? i = some .before)
    (haccounts : Marks g h i (.due .attach (g.sessionFor app).1))
    (hsessions : h.sessions = (g.sessionFor app).2.sessions) : Booked h := by
  have hlookups : (g.sessionFor app).1 < h.sessions.length ∧
      g.sessions.length ≤ h.sessions.length ∧
      ∀ k : Nat, h.sessions[k]? = g.sessions[k]? ∨
        g.sessions[k]? = none ∧ h.sessions[k]? = some (Session.create app) := by
    rw [hsessions]
    rcases g.sessionFor_cases app with ⟨s, hs, _, hsame⟩ | ⟨_, hk, happend⟩
    · rw [hsame]
      exact ⟨(List.getElem?_eq_some_iff.mp hs).1, Nat.le_refl _, fun _ => .inl rfl⟩
    · rw [hk, happend]
      refine ⟨by simp, by simp, ?_⟩
      intro k
      rcases Nat.lt_trichotomy k g.sessions.length with hlt | heq | hgt
      · exact .inl (List.getElem?_append_left hlt)
      · right
        subst heq
        simp
      · left
        rw [List.getElem?_eq_none (by simp; omega), List.getElem?_eq_none (by omega)]
  obtain ⟨hk, hlength, hlookup⟩ := hlookups
  apply hg.of_marks haccounts hlength
  · intro k s hs
    rcases hlookup k with hsame | ⟨hnone, hnew⟩
    · exact .inl (hsame ▸ hs)
    · rw [hs, Option.some.injEq] at hnew
      exact .inr ⟨hnone, app, hnew⟩
  · intro k n
    rcases hlookup k with hsame | ⟨hnone, hnew⟩
    · simp only [ticket?, hsame]
    · simp [ticket?, hnone, hnew, Session.ticket?, Session.create]
  · intro p k hdue
    cases hdue
    exact hk
  · intro p k n hwaiting
    cases hwaiting
  · intro p k n hwaiting
    rw [hfrom] at hwaiting
    cases hwaiting
  · intro k
    constructor
    · intro hinside
      cases hinside
    · intro hattends
      exact (not_attends_of_before (.inr hfrom) k hattends).elim

/-- A stream that no session has heard of arrives or is turned away. -/
theorem apart_from_sessions (hg : Booked g) {i : Nat} {a : Account}
    (hfrom : g.account? i = none ∨ g.account? i = some .before) (ha : a = .before ∨ a = .gone)
    (haccounts : Marks g h i a) (hsessions : h.sessions = g.sessions) : Booked h := by
  apply hg.of_marks haccounts
  · exact Nat.le_of_eq (congrArg List.length hsessions).symm
  · intro k s hs
    exact .inl (hsessions ▸ hs)
  · intro k n
    simp only [ticket?, hsessions]
  · intro p k hdue
    rcases ha with rfl | rfl <;> cases hdue
  · intro p k n hwaiting
    rcases ha with rfl | rfl <;> cases hwaiting
  · intro p k n hwaiting
    rcases hfrom with hnone | hbefore
    · rw [hnone] at hwaiting
      cases hwaiting
    · rw [hbefore] at hwaiting
      cases hwaiting
  · intro k
    constructor
    · intro hinside
      rcases ha with rfl | rfl <;> cases hinside
    · intro hattends
      exact (not_attends_of_before hfrom k hattends).elim

theorem of_passing (hg : Booked g) {call : Option Call} {join : Option Join}
    (hpassing : Passing g h call join) : Booked h := by
  cases hpassing with
  | idle haccounts hsessions => exact hg.of_same haccounts hsessions
  | arrived haccounts hsessions =>
      have hnone : g.account? g.streams.length = none := by simp [account?]
      exact hg.apart_from_sessions (.inl hnone) (.inl rfl) haccounts hsessions
  | turnedAway i hfrom haccounts hsessions =>
      exact hg.apart_from_sessions (.inr hfrom) (.inr rfl) haccounts hsessions
  | joined i app _ hfrom haccounts hsessions => exact hg.joined hfrom haccounts hsessions
  | called i errand cancelled k s hfrom hs haccounts hsessions =>
      exact hg.called hfrom hs haccounts hsessions
  | answered i p k n outcome hfrom hover haccounts hsessions =>
      exact hg.answered hfrom hover haccounts hsessions
  | moved k s m hm hs haccounts hsessions => exact hg.moved hm hs haccounts hsessions

theorem after (hg : Booked g) (m : Move) : Booked (g.after m) :=
  hg.of_passing (passing_after hg.housed m)

end Booked

end AttachGate.Gate
