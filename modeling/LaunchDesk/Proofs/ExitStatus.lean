import LaunchDesk.Proofs.Files
import LaunchDesk.Proofs.Refinement
import LaunchDesk.Session

/-!
# The exit status

A session that is understood fails for three reasons: it is given no file, the address that it is
given is none of the web, or the answer to a question is no text. Nothing else makes it fail, above
all nothing that the platform replies or leaves out.

## Implementation notes

There is at most one question in a session, so only the first line of the input matters. At the end
of the input that line is empty, and that is a text.
-/

namespace LaunchDesk

open Http Program Text

section FirstLine

/-- The first line of an input: all up to the first line end, which belongs to it, or all there
is. -/
def firstLine (input : List UInt8) : List UInt8 :=
  input.take ((input.takeWhile (· ≠ 10)).length + 1)

/-- The end of the input is a text. -/
theorem isUtf8_firstLine_nil : IsUtf8 (firstLine []) :=
  ⟨[], rfl⟩

theorem takeLine_fst (input : List UInt8) : (Terminal.takeLine input).1 = firstLine input := by
  induction input with
  | nil => rfl
  | cons b rest ih =>
      by_cases hb : b = 10
      · simp [Terminal.takeLine, firstLine, hb]
      · simpa [Terminal.takeLine, firstLine, hb] using ih

/-- A line end belongs to its line, and what stands behind it does not matter. -/
example : (Terminal.takeLine [0x79, 10, 0xFF]).1 = firstLine [0x79, 10] := by decide

/-- An answer can be read exactly if its line is a text, and there is one failure to read it. -/
theorem readAnswer_cases (input : List UInt8) :
    (IsUtf8 (firstLine input) ∧ ∃ yes, (Terminal.readAnswer input).1 = .ok yes) ∨
      (¬ IsUtf8 (firstLine input) ∧
        (Terminal.readAnswer input).1 = .error Terminal.unreadable) := by
  simp only [isUtf8_iff, Terminal.readAnswer, takeLine_fst, Terminal.answerOf]
  cases ofUtf8? (firstLine input) with
  | none => simp
  | some text => simp

/-- The first question of a session is answered by the first line. -/
theorem answer_of_first {α : Type} {client : Client} {folder : Folder} (p : Program α)
    (supplies : Supplies) {question : String} {answer : Answer} {rest : List (String × Answer)}
    (h : answersOf (p.history (client.host folder) supplies) = (question, answer) :: rest) :
    answer = (Terminal.readAnswer supplies.input).1 := by
  induction p generalizing supplies with
  | done a => cases h
  | say line next ih => exact ih supplies h
  | log entry next ih => exact ih supplies h
  | ask other next ih =>
      obtain ⟨hfirst, -⟩ := List.cons.inj h
      exact (congrArg Prod.snd hfirst).symm
  | call c next ih => exact ih _ ((client.host folder).serve c supplies).state h

end FirstLine

section Failures

/-- An address is given, and it is none of the web. -/
def Foreign (url? : Option String) : Prop :=
  ∃ url, url? = some url ∧ isBlankText url = false ∧ webAddress url = false

theorem Version.webAddress_address (version : Version) : webAddress version.address = true := by
  cases version <;> decide

/-- Settings with an address of the web are of use. -/
theorem fault?_of_webAddress {s : Settings} (h : webAddress s.platformUrl = true) :
    s.fault? = none := by
  have hne : s.platformUrl.isEmpty = false := by
    rw [Bool.eq_false_iff, Ne, String.isEmpty_iff]
    intro hempty
    rw [hempty] at h
    cases h
  simp [Settings.fault?, hne, h]

/-- Settings fail exactly on an address that is given, and always for the same reason. -/
theorem fault?_resolve (url? : Option String) (version : Version) (key : Option String) :
    (Foreign url? ∧ (Settings.resolve url? version key).fault? = some .foreignAddress) ∨
      (¬ Foreign url? ∧ (Settings.resolve url? version key).fault? = none) := by
  cases url? with
  | none =>
      refine Or.inr ⟨by simp [Foreign], fault?_of_webAddress ?_⟩
      exact version.webAddress_address
  | some url =>
      cases hblank : isBlankText url with
      | true =>
          refine Or.inr ⟨by simp [Foreign, hblank], fault?_of_webAddress ?_⟩
          simpa [Settings.resolve, Option.filter_some, hblank] using version.webAddress_address
      | false =>
          have haddress : (Settings.resolve (some url) version key).platformUrl = url := by
            simp [Settings.resolve, Option.filter_some, hblank]
          cases hweb : webAddress url with
          | true =>
              refine Or.inr ⟨by simp [Foreign, hweb], fault?_of_webAddress ?_⟩
              rw [haddress, hweb]
          | false =>
              have hne : url.isEmpty = false := by
                rw [Bool.eq_false_iff, Ne, String.isEmpty_iff]
                rintro rfl
                cases hblank
              refine Or.inl ⟨⟨url, rfl, hblank, hweb⟩, ?_⟩
              simp [Settings.fault?, haddress, hne, hweb]

/-- Before a session starts it can fail in two ways, and a missing file comes first. -/
theorem Invocation.failure?_cases (inv : Invocation) :
    (inv.order.files = [] ∧ inv.failure? = some (.launch .noJobFile)) ∨
      (inv.order.files ≠ [] ∧ Foreign inv.platformUrl ∧
        inv.failure? = some (.settings .foreignAddress)) ∨
      (inv.order.files ≠ [] ∧ ¬ Foreign inv.platformUrl ∧ inv.failure? = none) := by
  unfold failure? settings
  cases hf : inv.order.files with
  | nil => exact Or.inl ⟨rfl, rfl⟩
  | cons file others =>
      rcases fault?_resolve inv.platformUrl inv.version inv.apiKey with ⟨hu, hfault⟩ | ⟨hu, hfault⟩
      · exact Or.inr (Or.inl ⟨by simp, hu, by simp [hfault]⟩)
      · exact Or.inr (Or.inr ⟨by simp, hu, by simp [hfault]⟩)

end Failures

section Sessions

/-- A launch of a file ends as the answer to its question says, if it comes to one. -/
theorem Launched.ending {order : Order} {course : List Exchange} {r : Except LaunchError Unit}
    (h : Launched order course r) (hf : order.files ≠ []) :
    (answersOf course = [] ∧ r = .ok ()) ∨
      ∃ question answer offer, answersOf course = [(question, answer)] ∧ r = answer.ending ∧
        offer ∈ offersOf course ∧ (answer ≠ .ok true → TurnedDown course offer) := by
  cases h with
  | noFile hno => exact absurd hno hf
  | @scheduled file others hfiles first reply hs rest r hp =>
      rw [hs.answersOf_cons, hs.offersOf_cons]
      cases hp with
      | unscheduled e => exact Or.inl ⟨by simp, rfl⟩
      | unasked hq => exact Or.inl ⟨by simp, rfl⟩
      | @declined offer q hq answer hno reply =>
          refine Or.inr
            ⟨q.text, answer, offer, by simp, rfl, by simp [Except.toOption], fun _ => ?_⟩
          apply turnedDown_of_declined _ hq _ hno
          · simp [hs.offersOf_cons, Except.toOption]
          · simp [hs.answersOf_cons]
      | @queued offer hq =>
          exact Or.inr ⟨queueQuestion, .ok true, offer, by simp, rfl, by simp [Except.toOption],
            fun hno => absurd rfl hno⟩
      | @accepted offer hq rest hc =>
          exact Or.inr ⟨launchQuestion, .ok true, offer, by simp [hc.uneventful.answers], rfl,
            by simp [Except.toOption], fun hno => absurd rfl hno⟩

theorem Client.serves_host (client : Client) (folder : Folder) :
    client.Serves folder (client.host folder) Supplies.network :=
  ⟨fun _ _ => rfl, fun _ _ => rfl, fun _ _ => rfl, fun _ _ => rfl⟩

/-- No file is left to launch. -/
def Invocation.LacksFile (inv : Invocation) : Prop :=
  inv.order.files = []

/-- There is a file to launch, but the address that is given is none of the web. -/
def Invocation.Misdirected (inv : Invocation) : Prop :=
  inv.order.files ≠ [] ∧ Foreign inv.platformUrl

/-- There is an offer, the user is asked about it, and the first line of the input is no text. -/
def Unread (inv : Invocation) (folder : Folder) (supplies : Supplies) (trace : List Event) : Prop :=
  offersOf (inv.program.history (inv.client.host folder) supplies) ≠ [] ∧
    Trace.questions trace ≠ [] ∧ ¬ IsUtf8 (firstLine supplies.input)

/-- The ways in which a session ends. -/
inductive Ends (inv : Invocation) (folder : Folder) (supplies : Supplies) : Ending → Prop
  | noFile (hf : inv.LacksFile) : Ends inv folder supplies ⟨some (.launch .noJobFile), []⟩
  | foreign (hu : inv.Misdirected) :
      Ends inv folder supplies ⟨some (.settings .foreignAddress), []⟩
  | unread {trace : List Event} {offer : Offer} {schedule stop : Request}
      (hf : ¬ inv.LacksFile) (hu : ¬ inv.Misdirected) (hno : Unread inv folder supplies trace)
      (ho : offer ∈ offersOf (inv.program.history (inv.client.host folder) supplies))
      (hrequests : Trace.requests trace = [schedule, stop]) (hfirst : ¬ schedule.IsStop)
      (hlast : stop.body = encode (StopRequest.mk offer.jobId .falcon)) :
      Ends inv folder supplies ⟨some (.launch (.unread Terminal.unreadable)), trace⟩
  | well {trace : List Event} (hf : ¬ inv.LacksFile) (hu : ¬ inv.Misdirected)
      (hno : ¬ Unread inv folder supplies trace) : Ends inv folder supplies ⟨none, trace⟩

theorem ends_obey (inv : Invocation) (folder : Folder) (supplies : Supplies) :
    Ends inv folder supplies (Session.obey inv folder supplies) := by
  rcases inv.failure?_cases with ⟨hf, hfail⟩ | ⟨hf, hu, hfail⟩ | ⟨hf, hu, hfail⟩
  · simpa only [Session.obey, hfail] using Ends.noFile hf
  · simpa only [Session.obey, hfail] using Ends.foreign ⟨hf, hu⟩
  · have hright : ¬ inv.Misdirected := fun h => hu h.2
    have hquestions := questions_run_trace (inv.client.host folder) inv.program supplies
    -- The note on where a launch goes changes neither the course nor the result.
    have hhistory : inv.program.history (inv.client.host folder) supplies =
        (launch inv.order).history (inv.client.host folder) supplies := rfl
    have hresult : (inv.program.run (inv.client.host folder) supplies).result =
        ((launch inv.order).run (inv.client.host folder) supplies).result := rfl
    have hlaunched := launched_run inv.order (inv.client.host folder) supplies
    simp only [Session.obey, hfail]
    rcases hlaunched.ending hf with ⟨hnone, hr⟩ | ⟨question, answer, offer, ha, hr, ho, hturn⟩
    · rw [hresult, hr]
      refine .well hf hright fun hunread => hunread.2.1 ?_
      rw [hquestions, hhistory, hnone, List.map_nil]
    · have hfirst := answer_of_first _ supplies ha
      rcases readAnswer_cases supplies.input with ⟨hline, yes, hyes⟩ | ⟨hline, hno⟩
      · rw [hresult, hr, hfirst, hyes]
        exact .well hf hright fun hunread => hunread.2.2 hline
      · rw [hno] at hfirst
        obtain ⟨schedule, stop, hrequests, -, hstop, himage⟩ :=
          requests_of_turnedDown (inv.client.serves_host folder) (hturn (by simp [hfirst]))
        have hunread : Unread inv folder supplies
            (inv.program.run (inv.client.host folder) supplies).trace := by
          refine ⟨List.ne_nil_of_mem ho, ?_, hline⟩
          rw [hquestions, hhistory, ha]
          simp
        rw [hresult, hr, hfirst]
        exact .unread hf hright hunread ho hrequests hstop
          (Except.ok.inj (Client.sends_of_image himage).body).symm

variable {inv : Invocation} {folder : Folder} {supplies : Supplies} {ending : Ending}

/-- A session that does not start leaves no trace. -/
theorem Ends.unstarted (h : Ends inv folder supplies ending)
    (hno : inv.LacksFile ∨ inv.Misdirected) : ending.trace = [] := by
  cases h with
  | noFile hf => rfl
  | foreign hu => rfl
  | unread hf hu => exact absurd hno (not_or.mpr ⟨hf, hu⟩)
  | well hf hu => exact absurd hno (not_or.mpr ⟨hf, hu⟩)

theorem Ends.not_unread (h : Ends inv folder supplies ending)
    (hno : inv.LacksFile ∨ inv.Misdirected) : ¬ Unread inv folder supplies ending.trace := by
  rintro ⟨-, hq, -⟩
  rw [h.unstarted hno] at hq
  exact hq rfl

theorem Ends.exitCode_eq_one_iff (h : Ends inv folder supplies ending) :
    ending.exitCode = 1 ↔
      inv.LacksFile ∨ inv.Misdirected ∨ Unread inv folder supplies ending.trace := by
  cases h with
  | noFile hf => exact iff_of_true rfl (Or.inl hf)
  | foreign hu => exact iff_of_true rfl (Or.inr (Or.inl hu))
  | unread hf hu hno => exact iff_of_true rfl (Or.inr (Or.inr hno))
  | well hf hu hno => exact iff_of_false Nat.zero_ne_one (by simp [hf, hu, hno])

theorem Ends.exitCode_eq_zero (h : Ends inv folder supplies ending) (hne : ending.exitCode ≠ 1) :
    ending.exitCode = 0 := by
  cases h with
  | well => rfl
  | _ => exact absurd rfl hne

end Sessions

/-- A session that is understood has the exit status 1 if there is no file, if the address that is
given is none of the web, or if a question on an offer gets an answer that is no text, and else 0,
also at the end of the input. In the first two cases nothing is shown or sent; in the third the last
of all requests is the one order to stop the job. -/
theorem exit_status (env : Environment) (words : List String) (inv : Invocation)
    (hparse : Invocation.parse env words = .ok inv) (folder : Folder) (supplies : Supplies) :
    ∃ ending, Session.run env words folder supplies = .ok ending ∧
      (ending.exitCode = 1 ↔
        inv.LacksFile ∨ inv.Misdirected ∨ Unread inv folder supplies ending.trace) ∧
      (ending.exitCode ≠ 1 → ending.exitCode = 0) ∧
      (supplies.input = [] → ¬ Unread inv folder supplies ending.trace) ∧
      (inv.LacksFile → ending.failure = some (.launch .noJobFile)) ∧
      (inv.Misdirected → ending.failure = some (.settings .foreignAddress)) ∧
      (inv.LacksFile ∨ inv.Misdirected → Trace.requests ending.trace = [] ∧
        ∀ colours, Terminal.transcript colours ending.trace = "") ∧
      (Unread inv folder supplies ending.trace →
        ending.failure = some (.launch (.unread Terminal.unreadable)) ∧
          ∃ offer ∈ offersOf (inv.program.history (inv.client.host folder) supplies),
            ∃ schedule stop, Trace.requests ending.trace = [schedule, stop] ∧
              ¬ schedule.IsStop ∧ stop.body = encode (StopRequest.mk offer.jobId .falcon)) := by
  obtain ⟨ending, hrun, hends⟩ : ∃ ending, Session.run env words folder supplies = .ok ending ∧
      Ends inv folder supplies ending := by
    refine ⟨Session.obey inv folder supplies, ?_, ends_obey inv folder supplies⟩
    rw [Session.run, hparse]
    rfl
  refine ⟨ending, hrun, hends.exitCode_eq_one_iff, hends.exitCode_eq_zero, ?_, ?_, ?_, ?_, ?_⟩
  · rintro hinput ⟨-, -, hno⟩
    exact hno (hinput ▸ isUtf8_firstLine_nil)
  · intro hf
    cases hends with
    | noFile _ => rfl
    | foreign hu => exact absurd hf hu.1
    | unread hno _ _ => exact absurd hf hno
    | well hno _ _ => exact absurd hf hno
  · intro hu
    cases hends with
    | noFile hf => exact absurd hf hu.1
    | foreign _ => rfl
    | unread _ hno _ => exact absurd hu hno
    | well _ hno _ => exact absurd hu hno
  · intro hno
    rw [hends.unstarted hno]
    exact ⟨rfl, fun _ => rfl⟩
  · intro hunread
    have hnot := mt hends.not_unread (not_not_intro hunread)
    cases hends with
    | noFile hf => exact absurd (Or.inl hf) hnot
    | foreign hu => exact absurd (Or.inr hu) hnot
    | unread _ _ _ ho hrequests hfirst hlast =>
        exact ⟨rfl, _, ho, _, _, hrequests, hfirst, hlast⟩
    | well _ _ hno => exact absurd hunread hno

/-- An answer that is no text, to the question about a place in the queue. -/
theorem exit_status_for_sample :
    let words := ["--platform-url", "http://[::1]:8080", "launch", "job.yaml"]
    let folder : Folder := ⟨[(["job.yaml"], .file [])]⟩
    ∃ ending, Session.run ⟨none, none, none⟩ words folder ⟨.queueing, [0xFF]⟩ = .ok ending ∧
      ending.exitCode = 1 ∧ ∃ schedule stop, Trace.requests ending.trace = [schedule, stop] ∧
        ¬ schedule.IsStop := by
  intro words folder
  let inv : Invocation :=
    ⟨some "http://[::1]:8080", none, .release, ⟨["job.yaml"], none, none⟩⟩
  have hparse : Invocation.parse ⟨none, none, none⟩ words = .ok inv := by decide +kernel
  obtain ⟨ending, hrun, hiff, -, -, -, -, -, hstop⟩ :=
    exit_status ⟨none, none, none⟩ words inv hparse folder ⟨.queueing, [0xFF]⟩
  have hunread : Unread inv folder ⟨.queueing, [0xFF]⟩ ending.trace := by
    refine ⟨by decide +kernel, ?_, by rw [isUtf8_iff]; decide +kernel⟩
    have hending : Session.obey inv folder ⟨.queueing, [0xFF]⟩ = ending := by
      rw [Session.run, hparse] at hrun
      exact Except.ok.inj hrun
    rw [← hending]
    decide +kernel
  obtain ⟨-, offer, -, schedule, stop, hrequests, hfirst, -⟩ := hstop hunread
  exact ⟨ending, hrun, hiff.mpr (Or.inr (Or.inr hunread)), schedule, stop, hrequests, hfirst⟩

end LaunchDesk
