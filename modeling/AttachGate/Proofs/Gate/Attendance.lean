import AttachGate.Proofs.Gate.Refusals
import AttachGate.Proofs.Value.Sameness

/-!
# Attendance at the gate

The papers of a stream are the session that it joined and the calls that it
made.  Wherever it stands, they are those of a stream that joins one session,
calls it once to attach and, once that call has been taken, once to detach.  So
who attends is settled by the calls that have been taken, and with every stream
gone nobody does.
-/

namespace AttachGate.Gate

open Session (Purpose)

/-- The papers of a stream fit where it stands. -/
inductive Fits (g : Gate) (i : Nat) : Option Account → List Join → List Call → Prop
  | absent : Fits g i none [] []
  | before : Fits g i (some .before) [] []
  | away : Fits g i (some .gone) [] []
  | joined (a : App.Id) (k : Nat) : Fits g i (some (.due .attach k)) [⟨i, a, k⟩] []
  | opening (a : App.Id) (k n : Nat) :
    Fits g i (some (.waiting .attach k n)) [⟨i, a, k⟩] [⟨i, .attach, k, n⟩]
  | inside (a : App.Id) (k n : Nat) (hopened : g.ticket? k n = some (.attach, true)) :
    Fits g i (some (.due .detach k)) [⟨i, a, k⟩] [⟨i, .attach, k, n⟩]
  | closing (a : App.Id) (k n m : Nat) (hopened : g.ticket? k n = some (.attach, true)) :
    Fits g i (some (.waiting .detach k m)) [⟨i, a, k⟩] [⟨i, .attach, k, n⟩, ⟨i, .detach, k, m⟩]
  | left (a : App.Id) (k n m : Nat) (hopened : g.ticket? k n = some (.attach, true))
    (hclosed : g.ticket? k m = some (.detach, true)) :
    Fits g i (some .gone) [⟨i, a, k⟩] [⟨i, .attach, k, n⟩, ⟨i, .detach, k, m⟩]

def joinsOf (joins : List Join) (i : Nat) : List Join := joins.filter fun j => j.stream = i

def callsOf (calls : List Call) (i : Nat) : List Call := calls.filter fun c => c.stream = i

/-- The papers of all streams are in order, and the sessions are those that
streams have joined: one for each app. -/
structure Filed (joins : List Join) (calls : List Call) (g : Gate) : Prop where
  fits : ∀ i, Fits g i (g.account? i) (joinsOf joins i) (callsOf calls i)
  tabled : ∀ j ∈ joins, canLookUp j.app = true ∧
    ∃ s, g.sessions[j.session]? = some s ∧ s.app.same j.app = true
  peopled : ∀ k, k < g.sessions.length → ∃ j ∈ joins, j.session = k
  keyed : ∀ (k : Nat) (s : Session), g.sessions[k]? = some s → canLookUp s.app = true
  distinct : ∀ (k l : Nat) (s t : Session), g.sessions[k]? = some s → g.sessions[l]? = some t →
    s.app.same t.app = true → k = l

theorem filed_create {openTimeout : Option Number} {maxStreams : Int} {cluster : Cluster}
    {g : Gate} (hg : create openTimeout maxStreams cluster = .ok g) : Filed [] [] g := by
  obtain ⟨hsessions, haccounts⟩ := account?_of_create hg
  constructor
  · intro i
    rw [haccounts]
    exact .absent
  all_goals simp [hsessions]

/-- Tickets that have been taken stay so, and a session is for one app. -/
structure Keeps (g h : Gate) : Prop where
  sessions : ∀ (k : Nat) (s : Session), g.sessions[k]? = some s →
    ∃ t, h.sessions[k]? = some t ∧ t.app = s.app
  taken : ∀ k n p, g.ticket? k n = some (p, true) → h.ticket? k n = some (p, true)

theorem Keeps.of_same {g h : Gate} (hsessions : h.sessions = g.sessions) : Keeps g h := by
  constructor
  · intro k s hs
    exact ⟨s, hsessions ▸ hs, rfl⟩
  · intro k n p hticket
    simpa only [ticket?, hsessions] using hticket

theorem Keeps.of_set {g h : Gate} {k : Nat} {s t : Session} (hs : g.sessions[k]? = some s)
    (hsessions : h.sessions = g.sessions.set k t) (happ : t.app = s.app)
    (htaken : ∀ n p, s.ticket? n = some (p, true) → t.ticket? n = some (p, true)) :
    Keeps g h := by
  constructor
  · intro j u hu
    rw [hsessions, Booked.sessions_set hs]
    by_cases hj : j = k
    · subst hj
      rw [hs, Option.some.injEq] at hu
      subst hu
      exact ⟨t, by simp, happ⟩
    · exact ⟨u, by rw [if_neg hj, hu], rfl⟩
  · intro j n p hticket
    rw [Booked.ticket?_set hs hsessions]
    by_cases hj : j = k
    · subst hj
      rw [if_pos rfl]
      exact htaken n p (ticket?_of_session hs n ▸ hticket)
    · rw [if_neg hj]
      exact hticket

theorem Booked.keeps {g h : Gate} (hg : Booked g) {call : Option Call} {join : Option Join}
    (hpassing : Passing g h call join) : Keeps g h := by
  cases hpassing with
  | idle _ hsessions => exact .of_same hsessions
  | arrived _ hsessions => exact .of_same hsessions
  | turnedAway _ _ _ hsessions => exact .of_same hsessions
  | answered _ _ _ _ _ _ _ _ hsessions => exact .of_same hsessions
  | joined i app _ _ _ hsessions =>
      rcases g.sessionFor_cases app with ⟨_, _, _, hsame⟩ | ⟨_, _, happend⟩
      · exact .of_same (hsessions.trans (by rw [hsame]))
      · rw [happend] at hsessions
        have hold : ∀ (k : Nat) (s : Session), g.sessions[k]? = some s →
            h.sessions[k]? = some s := by
          intro k s hs
          have hlt := (List.getElem?_eq_some_iff.mp hs).1
          rw [hsessions, List.getElem?_append_left hlt, hs]
        constructor
        · intro k s hs
          exact ⟨s, hold k s hs, rfl⟩
        · intro k n p hticket
          simp only [ticket?, Option.bind_eq_some_iff] at hticket ⊢
          obtain ⟨s, hs, hn⟩ := hticket
          exact ⟨s, hold k s hs, hn⟩
  | called i errand cancelled k s _ hs _ hsessions =>
      apply Keeps.of_set hs hsessions rfl
      intro n p hticket
      rw [Session.ticket?_call, if_neg, hticket]
      rintro rfl
      rw [Session.ticket?_length] at hticket
      cases hticket
  | moved k s m hm hs _ hsessions =>
      have hsane := hg.sane k s hs
      have hsound : Session.Scene.Sound ⟨s, g.cluster⟩ := ⟨hsane.consistent, hsane.posted⟩
      apply Keeps.of_set hs hsessions
      · exact (Session.sameGoal_after ⟨s, g.cluster⟩ m).1
      · intro n p hticket
        rcases Session.takes_after hsound hm with ⟨hquiet, _⟩ | ⟨_, l, errand, _, htakes⟩
        · rw [hquiet]
          exact hticket
        · rw [htakes.tickets]
          split
          · rename_i hn
            subst hn
            have huntaken := htakes.untaken
            rw [hticket] at huntaken
            cases huntaken
          · exact hticket

theorem Fits.mono {g h : Gate} (hkeeps : Keeps g h) {i : Nat} {a : Option Account}
    {joins : List Join} {calls : List Call} (hfits : Fits g i a joins calls) :
    Fits h i a joins calls := by
  cases hfits with
  | absent => exact .absent
  | before => exact .before
  | away => exact .away
  | joined a k => exact .joined a k
  | opening a k n => exact .opening a k n
  | inside a k n hopened => exact .inside a k n (hkeeps.taken _ _ _ hopened)
  | closing a k n m hopened => exact .closing a k n m (hkeeps.taken _ _ _ hopened)
  | left a k n m hopened hclosed =>
      exact .left a k n m (hkeeps.taken _ _ _ hopened) (hkeeps.taken _ _ _ hclosed)

/-! ## The life of a stream -/

section Life

variable {g : Gate} {i : Nat} {joins : List Join} {calls : List Call}

theorem Fits.arrive (hfits : Fits g i none joins calls) : Fits g i (some .before) joins calls := by
  cases hfits
  exact .before

theorem Fits.turnAway (hfits : Fits g i (some .before) joins calls) :
    Fits g i (some .gone) joins calls := by
  cases hfits
  exact .away

theorem Fits.join (hfits : Fits g i (some .before) joins calls) (a : App.Id) (k : Nat) :
    Fits g i (some (.due .attach k)) (joins ++ [⟨i, a, k⟩]) calls := by
  cases hfits
  exact .joined a k

theorem Fits.call {p : Purpose} {k : Nat} (hfits : Fits g i (some (.due p k)) joins calls)
    (n : Nat) : Fits g i (some (.waiting p k n)) joins (calls ++ [⟨i, p, k, n⟩]) := by
  cases hfits with
  | joined a => exact .opening a k n
  | inside a _ m hopened => exact .closing a k m n hopened

theorem Fits.answer {p : Purpose} {k n : Nat}
    (hfits : Fits g i (some (.waiting p k n)) joins calls)
    (htaken : g.ticket? k n = some (p, true)) : Fits g i (some (.next k p)) joins calls := by
  cases hfits with
  | opening a => exact .inside a k n htaken
  | closing a _ m _ hopened => exact .left a k m n hopened htaken

end Life

/-- The papers of one stream grow. -/
theorem Filed.fits_marks {g h : Gate} {joins : List Join} {calls : List Call}
    (hfiled : Filed joins calls g) (hkeeps : Keeps g h) {j : Nat} {a : Account}
    (haccounts : Marks g h j a) {call : Option Call} {join : Option Join}
    (hcall : ∀ c ∈ call, c.stream = j) (hjoin : ∀ x ∈ join, x.stream = j)
    (hself : ∀ joins calls, Fits h j (g.account? j) joins calls →
      Fits h j (some a) (joins ++ join.toList) (calls ++ call.toList)) (i : Nat) :
    Fits h i (h.account? i) (joinsOf (joins ++ join.toList) i)
      (callsOf (calls ++ call.toList) i) := by
  have hfits := (hfiled.fits i).mono hkeeps
  rw [haccounts, joinsOf, callsOf, List.filter_append, List.filter_append]
  by_cases hi : i = j
  · subst hi
    have hjoins : join.toList.filter (fun x => x.stream = i) = join.toList := by
      simpa using hjoin
    have hcalls : call.toList.filter (fun c => c.stream = i) = call.toList := by
      simpa using hcall
    rw [if_pos rfl, hjoins, hcalls]
    exact hself _ _ hfits
  · have hjoins : join.toList.filter (fun x => x.stream = i) = [] := by
      simp only [List.filter_eq_nil_iff, Option.mem_toList]
      intro x hx
      simpa [hjoin x hx] using Ne.symm hi
    have hcalls : call.toList.filter (fun c => c.stream = i) = [] := by
      simp only [List.filter_eq_nil_iff, Option.mem_toList]
      intro c hc
      simpa [hcall c hc] using Ne.symm hi
    rw [if_neg hi, hjoins, hcalls, List.append_nil, List.append_nil]
    exact hfits

theorem Filed.fits_step {g h : Gate} {joins : List Join} {calls : List Call}
    (hfiled : Filed joins calls g) (hg : Booked g) {call : Option Call} {join : Option Join}
    (hpassing : Passing g h call join) (i : Nat) :
    Fits h i (h.account? i) (joinsOf (joins ++ join.toList) i)
      (callsOf (calls ++ call.toList) i) := by
  have hkeeps := hg.keeps hpassing
  have hsame : (∀ i, h.account? i = g.account? i) →
      Fits h i (h.account? i) (joinsOf joins i) (callsOf calls i) := by
    intro haccounts
    rw [haccounts]
    exact (hfiled.fits i).mono hkeeps
  cases hpassing with
  | idle haccounts _ => simpa using hsame haccounts
  | moved k s m _ _ haccounts _ => simpa using hsame haccounts
  | arrived haccounts _ =>
      apply hfiled.fits_marks hkeeps haccounts (by simp) (by simp)
      intro joins calls hfits
      have hnone : g.account? g.streams.length = none := by simp [account?]
      rw [hnone] at hfits
      simpa using hfits.arrive
  | turnedAway j hfrom haccounts _ =>
      apply hfiled.fits_marks hkeeps haccounts (by simp) (by simp)
      intro joins calls hfits
      rw [hfrom] at hfits
      simpa using hfits.turnAway
  | joined j app _ hfrom haccounts _ =>
      apply hfiled.fits_marks hkeeps haccounts (by simp) (by simp)
      intro joins calls hfits
      rw [hfrom] at hfits
      simpa using hfits.join app _
  | called j errand cancelled k s hfrom _ haccounts _ =>
      apply hfiled.fits_marks hkeeps haccounts (by simp) (by simp)
      intro joins calls hfits
      rw [hfrom] at hfits
      simpa using hfits.call _
  | answered j p k n outcome hfrom hover haccounts _ =>
      apply hfiled.fits_marks hkeeps haccounts (by simp) (by simp)
      intro joins calls hfits
      rw [hfrom] at hfits
      simpa using hfits.answer (hkeeps.taken _ _ _ (hg.taken_of_outcome hfrom hover))

/-! ## The table of sessions -/

/-- A session was there before, or a stream joins it that found none for its app. -/
theorem Passing.origin {g h : Gate} {call : Option Call} {join : Option Join}
    (hpassing : Passing g h call join) {k : Nat} {t : Session} (ht : h.sessions[k]? = some t) :
    (∃ s, g.sessions[k]? = some s ∧ t.app = s.app) ∨
    ∃ j, join = some j ∧ j.session = k ∧ t.app = j.app ∧ canLookUp j.app = true ∧
      ∀ s ∈ g.sessions, s.app.same j.app = false := by
  have hset : ∀ (l : Nat) (s u : Session), g.sessions[l]? = some s → u.app = s.app →
      h.sessions = g.sessions.set l u → ∃ s, g.sessions[k]? = some s ∧ t.app = s.app := by
    intro l s u hs happ hsessions
    rw [hsessions, Booked.sessions_set hs] at ht
    split at ht
    · rename_i hk
      cases ht
      exact ⟨s, hk ▸ hs, happ⟩
    · exact ⟨t, ht, rfl⟩
  cases hpassing with
  | idle _ hsessions | arrived _ hsessions | turnedAway _ _ _ hsessions
  | answered _ _ _ _ _ _ _ _ hsessions => exact .inl ⟨t, hsessions ▸ ht, rfl⟩
  | called i errand cancelled l s _ hs _ hsessions =>
      exact .inl (hset l s (s.call errand cancelled).2 hs rfl hsessions)
  | moved l s m _ hs _ hsessions =>
      exact .inl (hset l s _ hs (Session.sameGoal_after ⟨s, g.cluster⟩ m).1 hsessions)
  | joined i app hkey _ _ hsessions =>
      rcases g.sessionFor_cases app with ⟨s, _, _, hkept⟩ | ⟨hnew, hlast, happend⟩
      · rw [hsessions, hkept] at ht
        exact .inl ⟨t, ht, rfl⟩
      · rw [hsessions, happend, List.getElem?_append] at ht
        split at ht
        · exact .inl ⟨t, ht, rfl⟩
        · right
          rename_i hbeyond
          rw [List.getElem?_singleton] at ht
          split at ht
          · rename_i hzero
            cases ht
            have hk : (g.sessionFor app).1 = k := by omega
            exact ⟨_, rfl, hk, rfl, hkey, hnew⟩
          · cases ht

/-- The session that a stream joins is for its app. -/
theorem Passing.tabled {g h : Gate} {call : Option Call} {join : Option Join}
    (hpassing : Passing g h call join) {j : Join} (hj : join = some j) :
    canLookUp j.app = true ∧ ∃ s, h.sessions[j.session]? = some s ∧ s.app.same j.app = true := by
  cases hpassing with
  | joined i app hkey _ _ hsessions =>
      cases hj
      refine ⟨hkey, ?_⟩
      rcases g.sessionFor_cases app with ⟨s, hs, hsame, hkept⟩ | ⟨_, hlast, happend⟩
      · exact ⟨s, by rw [hsessions, hkept, hs], hsame⟩
      · exact ⟨.create app, by simp [hsessions, happend, hlast], App.Id.same_refl hkey⟩
  | _ => cases hj

theorem Filed.step {g h : Gate} {joins : List Join} {calls : List Call}
    (hfiled : Filed joins calls g) (hg : Booked g) {call : Option Call} {join : Option Join}
    (hpassing : Passing g h call join) :
    Filed (joins ++ join.toList) (calls ++ call.toList) h := by
  have hkeeps := hg.keeps hpassing
  have hkeyed : ∀ (k : Nat) (t : Session), h.sessions[k]? = some t → canLookUp t.app = true := by
    intro k t ht
    rcases hpassing.origin ht with ⟨s, hs, happ⟩ | ⟨j, _, _, happ, hkey, _⟩
    · exact happ ▸ hfiled.keyed k s hs
    · exact happ ▸ hkey
  constructor
  · exact hfiled.fits_step hg hpassing
  · intro j hj
    rcases List.mem_append.mp hj with hold | hnew
    · obtain ⟨hkey, s, hs, hsame⟩ := hfiled.tabled j hold
      obtain ⟨t, ht, happ⟩ := hkeeps.sessions _ s hs
      exact ⟨hkey, t, ht, happ ▸ hsame⟩
    · exact hpassing.tabled (Option.mem_toList.mp hnew)
  · intro k hk
    rcases hpassing.origin (List.getElem?_eq_getElem hk) with ⟨s, hs, _⟩ | ⟨j, rfl, rfl, _⟩
    · obtain ⟨j, hj, hsession⟩ := hfiled.peopled k (List.getElem?_eq_some_iff.mp hs).1
      exact ⟨j, List.mem_append_left _ hj, hsession⟩
    · exact ⟨j, by simp, rfl⟩
  · exact hkeyed
  · -- nobody else has the session of an app for which there was none
    have hfresh : ∀ (k l : Nat) (s t : Session), g.sessions[k]? = some s →
        h.sessions[l]? = some t → s.app.same t.app = true → k = l := by
      intro k l s t hs ht hsame
      rcases hpassing.origin ht with ⟨u, hu, happ⟩ | ⟨j, _, _, happ, _, hnone⟩
      · exact hfiled.distinct k l s u hs hu (happ ▸ hsame)
      · have hother := hnone s (List.mem_of_getElem? hs)
        rw [← happ, hsame] at hother
        cases hother
    intro k l s t hs ht hsame
    rcases hpassing.origin hs with ⟨u, hu, happ⟩ | ⟨j, hj, rfl, _⟩
    · exact hfresh k l u t hu ht (happ ▸ hsame)
    · rcases hpassing.origin ht with ⟨u, hu, happ⟩ | ⟨j', hj', rfl, _⟩
      · have hback := App.Id.same_symm (hkeyed _ s hs) (hkeyed _ t ht) hsame
        exact (hfresh l _ u s hu hs (happ ▸ hback)).symm
      · rw [hj, Option.some.injEq] at hj'
        rw [hj']

/-! ## Who attends -/

def joins (past : List (Gate × Move)) : List Join := past.filterMap fun e => e.1.join? e.2

def calls (past : List (Gate × Move)) : List Call := past.filterMap fun e => e.1.call? e.2

theorem joins_snoc (past : List (Gate × Move)) (g : Gate) (m : Move) :
    joins (past ++ [(g, m)]) = joins past ++ (g.join? m).toList := by
  simp only [joins, List.filterMap_append, List.filterMap_cons, List.filterMap_nil]
  cases g.join? m <;> rfl

theorem calls_snoc (past : List (Gate × Move)) (g : Gate) (m : Move) :
    calls (past ++ [(g, m)]) = calls past ++ (g.call? m).toList := by
  simp only [calls, List.filterMap_append, List.filterMap_cons, List.filterMap_nil]
  cases g.call? m <;> rfl

def Processed (past : List (Gate × Move)) (g : Gate) (i : Nat) (p : Purpose) : Prop :=
  ∃ c ∈ calls past, c.stream = i ∧ c.purpose = p ∧ g.ticket? c.session c.caller = some (p, true)

/-- A stream attends the session that it has joined once its call to attach has
been taken and until its call to detach is. -/
theorem Fits.attends_iff {g : Gate} (hg : Booked g) {i : Nat} {joins : List Join}
    {calls : List Call} (hfits : Fits g i (g.account? i) joins calls) (k : Nat) :
    Attends g i k ↔ (∃ j ∈ joins, j.session = k) ∧
      (∃ c ∈ calls, c.purpose = .attach ∧ g.ticket? c.session c.caller = some (.attach, true)) ∧
      ¬ ∃ c ∈ calls, c.purpose = .detach ∧ g.ticket? c.session c.caller = some (.detach, true) := by
  rw [Gate.attends_iff]
  generalize haccount : g.account? i = a at hfits
  cases hfits with
  | absent => simp
  | before => simp
  | away => simp
  | joined a l => simp
  | opening a l n =>
      by_cases hk : l = k
      · subst hk
        simp
      · simp [hk]
  | inside a l n hopened => simp [hopened]
  | closing a l n m hopened =>
      obtain ⟨taken, htaken⟩ := hg.held i .detach l m haccount
      by_cases hk : l = k
      · subst hk
        cases taken <;> simp [hopened, htaken]
      · simp [hk]
  | left a l n m hopened hclosed => simp [hclosed]

theorem Fits.joined_of_call {g : Gate} {i : Nat} {a : Option Account} {joins : List Join}
    {calls : List Call} (hfits : Fits g i a joins calls) {c : Call} (hc : c ∈ calls) :
    ∃ j ∈ joins, j.session = c.session := by
  cases hfits with
  | absent => cases hc
  | before => cases hc
  | away => cases hc
  | joined => cases hc
  | opening a k n =>
      rw [List.mem_singleton] at hc
      exact ⟨_, .head _, hc ▸ rfl⟩
  | inside a k n _ =>
      rw [List.mem_singleton] at hc
      exact ⟨_, .head _, hc ▸ rfl⟩
  | closing a k n m _ =>
      rw [List.mem_cons, List.mem_singleton] at hc
      rcases hc with rfl | rfl <;> exact ⟨_, .head _, rfl⟩
  | left a k n m _ _ =>
      rw [List.mem_cons, List.mem_singleton] at hc
      rcases hc with rfl | rfl <;> exact ⟨_, .head _, rfl⟩

/-- A stream calls to attach once at most, and to detach likewise. -/
theorem Fits.count_calls_le {g : Gate} {i : Nat} {a : Option Account} {joins : List Join}
    {calls : List Call} (hfits : Fits g i a joins calls) (p : Purpose) :
    calls.countP (fun c => c.purpose = p) ≤ 1 := by
  cases hfits <;> cases p <;> simp

/-- A stream that is gone and has joined a session has been attached to it. -/
theorem Fits.opened_of_gone {g : Gate} {i : Nat} {a : Option Account} {joins : List Join}
    {calls : List Call} (hfits : Fits g i a joins calls) (ha : a = none ∨ a = some .gone)
    {j : Join} (hj : j ∈ joins) : ∃ n, g.ticket? j.session n = some (.attach, true) := by
  cases hfits with
  | left a k n m hopened hclosed =>
      rw [List.mem_singleton] at hj
      exact ⟨n, hj ▸ hopened⟩
  | absent => cases hj
  | before => cases hj
  | away => cases hj
  | _ => simp at ha

/-! ## Courses -/

variable {openTimeout : Option Number} {maxStreams : Int} {cluster : Cluster} {first : Gate}

/-- In every course of a gate the books are kept and the papers are in order. -/
theorem filed_course (hfirst : create openTimeout maxStreams cluster = .ok first)
    (moves : List Move) :
    Booked (moves.foldl after first) ∧
      Filed (joins (history after first moves)) (calls (history after first moves))
        (moves.foldl after first) := by
  apply course_invariant (I := fun past g => Booked g ∧ Filed (joins past) (calls past) g)
  · exact ⟨booked_create hfirst, filed_create hfirst⟩
  · intro past g m hg
    rw [joins_snoc, calls_snoc]
    exact ⟨hg.1.after m, hg.2.step hg.1 (passing_after hg.1.housed m)⟩

/-- In every course in which the cluster is fair, no change fails as a refusal. -/
theorem fair_course (hfirst : create openTimeout maxStreams cluster = .ok first)
    (hcluster : cluster.FailsAs IsOther) {moves : List Move} (hmoves : ∀ m ∈ moves, m.IsFair) :
    Fair (moves.foldl after first) := by
  have hcourse : Booked (moves.foldl after first) ∧
      ((∀ e ∈ history after first moves, e.2.IsFair) → Fair (moves.foldl after first)) := by
    apply course_invariant (I := fun (past : List (Gate × Move)) g =>
      Booked g ∧ ((∀ e ∈ past, e.2.IsFair) → Fair g))
    · exact ⟨booked_create hfirst, fun _ => fair_create hfirst hcluster⟩
    · intro past g m hg
      refine ⟨hg.1.after m, ?_⟩
      intro hfair
      have hbefore := hg.2 fun e he => hfair e (List.mem_append_left _ he)
      exact hbefore.after hg.1 (hfair (g, m) (by simp))
  exact hcourse.2 fun e he => hmoves e.2 (mem_of_mem_history he)

section Course

variable {past : List (Gate × Move)} {g : Gate}
  (hfiled : Filed (joins past) (calls past) g)

include hfiled

/-- Streams share a session if they mean the same app. -/
theorem session_eq_iff {j j' : Join} (hj : j ∈ joins past) (hj' : j' ∈ joins past) :
    j.session = j'.session ↔ j.app.same j'.app = true := by
  obtain ⟨hkey, s, hs, hsame⟩ := hfiled.tabled j hj
  obtain ⟨hkey', s', hs', hsame'⟩ := hfiled.tabled j' hj'
  have hskey := hfiled.keyed _ s hs
  have hskey' := hfiled.keyed _ s' hs'
  constructor
  · intro hsession
    rw [hsession, hs', Option.some.injEq] at hs
    subst hs
    exact App.Id.same_trans hkey hskey hkey' (App.Id.same_symm hskey hkey hsame) hsame'
  · intro happ
    have hforth := App.Id.same_trans hskey hkey hkey' hsame happ
    have hback := App.Id.same_symm hskey' hkey' hsame'
    exact hfiled.distinct _ _ s s' hs hs'
      (App.Id.same_trans hskey hkey' hskey' hforth hback)

/-- A stream joins a session by the app that it means. -/
theorem joined_iff {k : Nat} {s : Session} (hs : g.sessions[k]? = some s) {j : Join}
    (hj : j ∈ joins past) : j.session = k ↔ s.app.same j.app = true := by
  obtain ⟨hkey, t, ht, hsame⟩ := hfiled.tabled j hj
  have hskey := hfiled.keyed k s hs
  have htkey := hfiled.keyed _ t ht
  constructor
  · intro hsession
    rw [hsession, hs, Option.some.injEq] at ht
    exact ht ▸ hsame
  · intro happ
    have hback := App.Id.same_symm htkey hkey hsame
    have hst := App.Id.same_trans hskey hkey htkey happ hback
    exact (hfiled.distinct k _ s t hs ht hst).symm

/-- A stream calls the session that it has joined. -/
theorem joined_of_call {c : Call} (hc : c ∈ calls past) :
    ∃ j ∈ joins past, j.stream = c.stream ∧ j.session = c.session := by
  have hmem : c ∈ callsOf (calls past) c.stream := by simp [callsOf, hc]
  obtain ⟨j, hj, hsession⟩ := (hfiled.fits c.stream).joined_of_call hmem
  simp only [joinsOf, List.mem_filter, decide_eq_true_eq] at hj
  exact ⟨j, hj.1, hj.2, hsession⟩

theorem count_calls_le (i : Nat) (p : Purpose) :
    (calls past).countP (fun c => c.stream = i ∧ c.purpose = p) ≤ 1 := by
  have hcount := (hfiled.fits i).count_calls_le p
  rw [callsOf, List.countP_filter] at hcount
  simpa only [Bool.decide_and, Bool.and_comm] using hcount

/-- The streams attached to a session, by what they have called it for. -/
theorem attends_iff_processed (hbooked : Booked g) {k : Nat} {s : Session}
    (hs : g.sessions[k]? = some s) (i : Nat) :
    Attends g i k ↔ (∃ j ∈ joins past, j.stream = i ∧ s.app.same j.app = true) ∧
      Processed past g i .attach ∧ ¬ Processed past g i .detach := by
  have hjoined : (∃ j ∈ joinsOf (joins past) i, j.session = k) ↔
      ∃ j ∈ joins past, j.stream = i ∧ s.app.same j.app = true := by
    simp only [joinsOf, List.mem_filter, decide_eq_true_eq, and_assoc]
    constructor
    · intro hfound
      obtain ⟨j, hj, hstream, hsession⟩ := hfound
      exact ⟨j, hj, hstream, (joined_iff hfiled hs hj).mp hsession⟩
    · intro hfound
      obtain ⟨j, hj, hstream, happ⟩ := hfound
      exact ⟨j, hj, hstream, (joined_iff hfiled hs hj).mpr happ⟩
  have hprocessed : ∀ p, (∃ c ∈ callsOf (calls past) i, c.purpose = p ∧
      g.ticket? c.session c.caller = some (p, true)) ↔ Processed past g i p := by
    intro p
    simp only [callsOf, List.mem_filter, decide_eq_true_eq, and_assoc, Processed]
  rw [(hfiled.fits i).attends_iff hbooked, hjoined, hprocessed, hprocessed]

/-- With every stream gone, each session is left at rest. -/
theorem vacant_of_ended (hbooked : Booked g)
    (hended : ∀ s ∈ g.streams, ∃ status, s.stage = .ended status) {k : Nat} {s : Session}
    (hs : g.sessions[k]? = some s) :
    s.count = 0 ∧ s.cached = none ∧ ∃ i, s.coordinator.latest? = some i ∧ i.phase = .rest := by
  have hgone : ∀ i, g.account? i = none ∨ g.account? i = some .gone := by
    intro i
    cases hstream : g.streams[i]? with
    | none => exact .inl (by simp [account?, hstream])
    | some stream =>
        obtain ⟨status, hstage⟩ := hended stream (List.mem_of_getElem? hstream)
        exact .inr (by simp [account?, hstream, hstage, Stage.account])
  have hcount : s.count = 0 := by
    obtain ⟨roster, _, hlength, hmem⟩ := hbooked.roster k s hs
    cases roster with
    | nil => exact hlength.symm
    | cons i rest =>
        have hattends := (hmem i).mp (.head rest)
        rcases hgone i with hnone | hgone <;> cases hattends <;> simp_all
  have hsane := hbooked.sane k s hs
  have hvacant := hsane.consistent.vacant hcount
  obtain ⟨j, hj, hsession⟩ := hfiled.peopled k (List.getElem?_eq_some_iff.mp hs).1
  have hmem : j ∈ joinsOf (joins past) j.stream := by simp [joinsOf, hj]
  obtain ⟨n, hticket⟩ := (hfiled.fits j.stream).opened_of_gone (hgone j.stream) hmem
  rw [hsession, ticket?_of_session hs] at hticket
  have hlength := hsane.stirred n hticket
  obtain ⟨i, hlatest⟩ : ∃ i, s.coordinator.latest? = some i :=
    ⟨_, List.getLast?_eq_some_getLast (List.ne_nil_of_length_pos hlength)⟩
  exact ⟨hcount, hvacant.1, i, hlatest, hvacant.2 i hlatest⟩

end Course

/-- In every course of a gate: a session counts the streams of its app whose call
to attach has been taken and whose call to detach has not; two streams share a
session exactly if they mean the same app; a stream calls the session that it has
joined, once at most to attach and once at most to detach; no session refuses to
detach a stream, and no stream is told that it has detached once too often, unless
a call of the cluster fails that way; and with every stream gone, every session
has no client and no instance, and the last thing it has asked for is rest. -/
theorem attendance (hfirst : create openTimeout maxStreams cluster = .ok first)
    (moves : List Move) (past : List (Gate × Move)) (hpast : past = history after first moves)
    (g : Gate) (hg : g = moves.foldl after first) :
    (∀ (k : Nat) (s : Session), g.sessions[k]? = some s →
      ∃ roster : List Nat, roster.Nodup ∧ roster.length = s.count ∧ ∀ i, i ∈ roster ↔
        (∃ j ∈ joins past, j.stream = i ∧ s.app.same j.app = true) ∧
          Processed past g i .attach ∧ ¬ Processed past g i .detach) ∧
    (∀ j ∈ joins past, ∀ j' ∈ joins past,
      j.session = j'.session ↔ j.app.same j'.app = true) ∧
    (∀ c ∈ calls past, ∃ j ∈ joins past, j.stream = c.stream ∧ j.session = c.session) ∧
    (∀ i p, (calls past).countP (fun c => c.stream = i ∧ c.purpose = p) ≤ 1) ∧
    (∀ (k n : Nat) (s : Session) (c : Session.Caller) (f : Failure), g.sessions[k]? = some s →
      s.callers[n]? = some c → c.standing ≠ .answered (.refused f)) ∧
    (cluster.FailsAs IsOther → (∀ m ∈ moves, m.IsFair) →
      ∀ k n f, g.outcome? k n = some (.error f) → f.isIn .overClosed = false) ∧
    ((∀ s ∈ g.streams, ∃ status, s.stage = .ended status) →
      ∀ (k : Nat) (s : Session), g.sessions[k]? = some s → s.count = 0 ∧ s.cached = none ∧
        ∃ i, s.coordinator.latest? = some i ∧ i.phase = .rest) := by
  obtain ⟨hbooked, hfiled⟩ := filed_course hfirst moves
  rw [← hg, ← hpast] at hfiled
  rw [← hg] at hbooked
  refine ⟨?_, ?_, ?_, ?_, ?_, ?_, ?_⟩
  · intro k s hs
    obtain ⟨roster, hnodup, hlength, hmem⟩ := hbooked.roster k s hs
    refine ⟨roster, hnodup, hlength, ?_⟩
    intro i
    rw [hmem, attends_iff_processed hfiled hbooked hs]
  · intro j hj j' hj'
    exact session_eq_iff hfiled hj hj'
  · intro c hc
    exact joined_of_call hfiled hc
  · exact count_calls_le hfiled
  · intro k n s c f hs hc
    exact (hbooked.sane k s hs).unrefused.not_refused hc f
  · intro hcluster hfair k n f hover
    have hend := fair_course hfirst hcluster hfair
    rw [← hg] at hend
    exact hend.outcome hbooked hover
  · intro hended k s hs
    exact vacant_of_ended hfiled hbooked hended hs

namespace Sample

def gate : Gate :=
  { openTimeout := none, maxStreams := 2, sessions := [], streams := [], queue := []
    cluster := Session.Sample.cluster, clock := .float (Binary64.ofMagnitudeBits false 0) }

def opening : Request :=
  { app := some Session.Sample.app, command := [.text "sh"], size := some ⟨80, 24⟩, input := [] }

/-- Two clients wait for one app to start. -/
def arriving : List Move :=
  [.arrive [.message opening] none, .handle 0, .handle 0, .handle 0,
    .arrive [.message opening] none, .handle 1, .handle 1, .handle 1,
    .session 0 .work, .session 0 .work]

/-- They go away before it has, and the app is put to rest. -/
def leaving : List Move :=
  [.depart 0, .session 0 (.take 0), .session 0 (.look 0), .session 0 (.doubt 0),
    .depart 1, .session 0 (.take 1), .session 0 (.look 1), .session 0 (.doubt 1),
    .handle 0, .handle 0, .handle 1, .handle 1, .session 0 .work, .session 0 .work,
    .session 0 (.run 2), .session 0 (.run 2), .session 0 (.run 2), .session 0 (.run 2),
    .session 0 (.run 2), .session 0 (.run 2), .session 0 (.run 2),
    .session 0 (.take 2), .session 0 (.look 2), .session 0 (.take 3), .session 0 (.look 3),
    .handle 0, .handle 1]

end Sample

theorem attendance_two :
    (∃ roster : List Nat, roster.Nodup ∧ roster.length = 2 ∧
      ∀ i ∈ roster, Processed (history after Sample.gate Sample.arriving)
        (Sample.arriving.foldl after Sample.gate) i .attach) ∧
    (∀ n f, ((Sample.arriving ++ Sample.leaving).foldl after Sample.gate).outcome? 0 n =
      some (.error f) → f.isIn .overClosed = false) ∧
    ∃ s, ((Sample.arriving ++ Sample.leaving).foldl after Sample.gate).sessions[0]? = some s ∧
      s.count = 0 ∧ s.cached = none ∧
      ∃ i, s.coordinator.latest? = some i ∧ i.phase = .rest := by
  have hfirst : create none 2 Session.Sample.cluster = .ok Sample.gate := rfl
  obtain ⟨hcounts, _⟩ := attendance hfirst Sample.arriving _ rfl _ rfl
  obtain ⟨_, _, _, _, _, htold, hvacant⟩ :=
    attendance hfirst (Sample.arriving ++ Sample.leaving) _ rfl _ rfl
  refine ⟨?_, ?_, ?_⟩
  · have hcount : ((Sample.arriving.foldl after Sample.gate).sessions[0]?).map Session.count =
        some 2 := by decide +kernel
    obtain ⟨s, hs, htwo⟩ := Option.map_eq_some_iff.mp hcount
    obtain ⟨roster, hnodup, hlength, hmem⟩ := hcounts 0 s hs
    exact ⟨roster, hnodup, hlength.trans htwo, fun i hi => ((hmem i).mp hi).2.1⟩
  · have hfair : ∀ m ∈ Sample.arriving ++ Sample.leaving, m.IsFair := by
      simp [Sample.arriving, Sample.leaving, Move.IsFair]
    exact htold ⟨nofun, nofun, nofun⟩ hfair 0
  · have hsome : ((Sample.arriving ++ Sample.leaving).foldl after
        Sample.gate).sessions[0]?.isSome = true := by decide +kernel
    obtain ⟨s, hs⟩ := Option.isSome_iff_exists.mp hsome
    refine ⟨s, hs, hvacant ?_ 0 s hs⟩
    have hended : ((Sample.arriving ++ Sample.leaving).foldl after Sample.gate).streams.all
        (fun s => s.stage matches .ended _) = true := by decide +kernel
    intro s hs
    have hstage := List.all_eq_true.mp hended s hs
    split at hstage
    · rename_i status hstatus
      exact ⟨status, hstatus⟩
    · cases hstage

end AttachGate.Gate
