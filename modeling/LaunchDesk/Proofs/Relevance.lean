import LaunchDesk.Proofs.Agreement
import LaunchDesk.Proofs.Secrecy
import LaunchDesk.Proofs.Submission

/-!
# What a session depends on

Of all files only the first one that is named matters to a session, and of the input only the first
line. A group does not matter on a cluster, and the version of the platform only as far as its
address does. Two sessions that have the rest in common show the same, send the same and end the
same.

## Implementation notes

A run takes one line of the input for each question, so two runs of one program are the same if
their inputs share as many lines as there are questions, and if the files of their calls have the
same text. The programs of the two sessions may still note different things in the log, which no
host can see; so the second step is that programs that agree are alike.
-/

namespace LaunchDesk

open Http Program

namespace Terminal

/-- The first lines of an input, and what stands behind them. -/
def takeLines : Nat → List UInt8 → List (List UInt8) × List UInt8
  | 0, input => ([], input)
  | n + 1, input =>
      ((takeLine input).1 :: (takeLines n (takeLine input).2).1,
        (takeLines n (takeLine input).2).2)

end Terminal

open Terminal

section Runs

variable {α : Type} {client : Client} {folder other : Folder} {s t : Supplies}

/-- A run takes one line of the input for each of its questions. -/
theorem input_run (client : Client) (folder : Folder) (p : Program α) (s : Supplies) :
    (p.run (client.host folder) s).state.input =
      (takeLines (answersOf (p.history (client.host folder) s)).length s.input).2 := by
  induction p generalizing s with
  | done a => rfl
  | say line next ih => exact ih s
  | log entry next ih => exact ih s
  | ask question next ih => exact ih _ _
  | call c next ih => exact ih _ _

/-- A call is served in the same way if it has the same text to send. -/
theorem serve_congr {c : Call} (h : c.body other = c.body folder) (network : Network) :
    client.serve other c network = client.serve folder c network := by
  simp only [Client.serve, h]

/-- With other files and another input a run is the same if all its calls have the same texts to
send and all its questions get the same lines. -/
theorem run_replayed (p : Program α) (hn : t.network = s.network)
    (hcalls : ∀ c ∈ callsOf (p.history (client.host folder) s), c.body other = c.body folder)
    (hlines : (takeLines (answersOf (p.history (client.host folder) s)).length t.input).1 =
      (takeLines (answersOf (p.history (client.host folder) s)).length s.input).1) :
    (p.run (client.host other) t).result = (p.run (client.host folder) s).result ∧
      (p.run (client.host other) t).trace = (p.run (client.host folder) s).trace := by
  induction p generalizing s t with
  | done a => exact ⟨rfl, rfl⟩
  | say line next ih =>
      obtain ⟨hresult, htrace⟩ := ih hn hcalls hlines
      exact ⟨hresult, congrArg (Event.said line :: ·) htrace⟩
  | log entry next ih =>
      obtain ⟨hresult, htrace⟩ := ih hn hcalls hlines
      exact ⟨hresult, congrArg (Event.logged entry :: ·) htrace⟩
  | ask question next ih =>
      obtain ⟨hfirst, hrest⟩ := List.cons.inj hlines
      have hanswer : ((client.host other).answer question t).1 =
          ((client.host folder).answer question s).1 := congrArg answerOf hfirst
      obtain ⟨hresult, htrace⟩ := ih ((client.host folder).answer question s).1
        (s := ((client.host folder).answer question s).2)
        (t := ((client.host other).answer question t).2) hn hcalls hrest
      simp only [run_ask, hanswer, Run.result_after, Run.trace_after, hresult, htrace, and_self]
  | call c next ih =>
      have hserve : client.serve other c t.network = client.serve folder c s.network := by
        rw [hn, serve_congr (hcalls c List.mem_cons_self)]
      obtain ⟨hresult, htrace⟩ := ih (client.serve folder c s.network).result
        (s := ((client.host folder).serve c s).state)
        (t := { t with network := (client.serve folder c s.network).state }) rfl
        (fun d hd => hcalls d (List.mem_cons_of_mem c hd)) hlines
      simp only [run_call, Client.host, hserve, Served.events, Run.result_after, Run.trace_after]
      exact ⟨hresult, congrArg _ htrace⟩

end Runs

namespace Trace

theorem transcript_unlogged (colours : Bool) (trace : List Event) :
    Terminal.transcript colours (unlogged trace) = Terminal.transcript colours trace := by
  have hshown : (unlogged trace).flatMap (Terminal.shown colours) =
      trace.flatMap (Terminal.shown colours) := by
    induction trace with
    | nil => rfl
    | cons e trace ih => cases e <;> simp_all [unlogged, Terminal.shown]
  rw [Terminal.transcript, hshown, Terminal.transcript]

theorem requests_unlogged (trace : List Event) : requests (unlogged trace) = requests trace := by
  induction trace with
  | nil => rfl
  | cons e trace ih => cases e <;> simp_all [unlogged, requests]

end Trace

/-- Two endings are the same but for the log: to the user, to the server and to the caller. -/
structure Ending.SameButLog (a b : Ending) : Prop where
  /-- The failure, with its causes. -/
  failure : b.failure = a.failure
  exitCode : b.exitCode = a.exitCode
  /-- What the user sees. -/
  output : ∀ colours, Terminal.transcript colours b.trace = Terminal.transcript colours a.trace
  /-- The requests, with their credentials. -/
  requests : Trace.requests b.trace = Trace.requests a.trace
  /-- All that happened, in order. -/
  trace : Trace.unlogged b.trace = Trace.unlogged a.trace

theorem Ending.sameButLog_of {a b : Ending} (hfailure : b.failure = a.failure)
    (htrace : Trace.unlogged b.trace = Trace.unlogged a.trace) : a.SameButLog b where
  failure := hfailure
  exitCode := by rw [exitCode, exitCode, hfailure]
  output := by
    intro colours
    rw [← Trace.transcript_unlogged, htrace, Trace.transcript_unlogged]
  requests := by rw [← Trace.requests_unlogged, htrace, Trace.requests_unlogged]
  trace := htrace

namespace Session

/-- What two sessions have in common if they have all in common that matters. -/
structure Akin (inv : Invocation) (folder : Folder) (supplies : Supplies) (inv' : Invocation)
    (folder' : Folder) (supplies' : Supplies) : Prop where
  /-- The first file, or that there is none. -/
  file : inv'.order.files.head? = inv.order.files.head?
  /-- What can be read in it, or why it cannot be read. -/
  content : ∀ file, inv.order.files.head? = some file → folder'.readText file = folder.readText file
  cluster : inv'.order.cluster = inv.order.cluster
  /-- The group, unless there is a cluster. -/
  group : inv.order.cluster = none → inv'.order.group = inv.order.group
  /-- The address of the platform, whether it is given or follows from a version. -/
  address : inv'.settings.platformUrl = inv.settings.platformUrl
  key : inv'.settings.apiKey = inv.settings.apiKey
  /-- The server and its replies. -/
  network : supplies'.network = supplies.network
  line : firstLine supplies'.input = firstLine supplies.input

variable {inv inv' : Invocation} {folder folder' : Folder} {supplies supplies' : Supplies}
  {file : String} {others : List String}

theorem Akin.client_eq (h : Akin inv folder supplies inv' folder' supplies') :
    inv'.client = inv.client := by
  simp only [Invocation.client, h.address, h.key]

theorem Akin.failure?_eq (h : Akin inv folder supplies inv' folder' supplies') :
    inv'.failure? = inv.failure? := by
  have hempty : inv'.order.files.isEmpty = inv.order.files.isEmpty := by
    rw [Bool.eq_iff_iff, List.isEmpty_iff, List.isEmpty_iff, ← List.head?_eq_none_iff, h.file,
      List.head?_eq_none_iff]
  simp only [Invocation.failure?, hempty, Settings.fault?, h.address]

/-- But for its notes, a session that starts launches its first file. -/
theorem program_leadsTo (hf : inv.order.files = file :: others) :
    inv.program.LeadsTo [] (launchFile file inv.order.cluster inv.order.group) :=
  .log (launch_of_files hf)

/-- A launch on a cluster is the same whatever the group. -/
theorem launchFile_congr {cluster group group' : Option String}
    (h : cluster = none → group' = group) :
    launchFile file cluster group' = launchFile file cluster group := by
  cases cluster with
  | none => rw [h rfl]
  | some name => rfl

theorem Akin.agree (h : Akin inv folder supplies inv' folder' supplies')
    (hf : inv.order.files = file :: others) : Agree Eq inv.program inv'.program := by
  obtain ⟨others', hf'⟩ : ∃ others', inv'.order.files = file :: others' := by
    have hhead := h.file
    rw [hf] at hhead
    exact List.head?_eq_some_iff.mp hhead
  have hright := program_leadsTo hf'
  rw [h.cluster, launchFile_congr h.group] at hright
  exact (program_leadsTo hf).agree hright (Agree.refl _)

/-- There is at most one question in a session. -/
theorem length_answersOf_le (inv : Invocation) (host : Host Supplies) (s : Supplies) :
    (answersOf (inv.program.history host s)).length ≤ 1 := by
  have hhistory : inv.program.history host s = (launch inv.order).history host s := rfl
  rw [hhistory]
  by_cases hf : inv.order.files = []
  · simp [launch_of_noFile hf, history]
  · rcases (launched_run inv.order host s).ending hf with ⟨hnone, -⟩ | ⟨q, answer, -, hone, -⟩
    · simp [hnone]
    · simp [hone]

/-- Inputs with the same first line have the same lines up to there. -/
theorem takeLines_congr {n : Nat} (hn : n ≤ 1) {input input' : List UInt8}
    (h : firstLine input' = firstLine input) :
    (takeLines n input').1 = (takeLines n input).1 := by
  cases n with
  | zero => rfl
  | succ n =>
      obtain rfl : n = 0 := by omega
      simp only [takeLines, takeLine_fst, h]

theorem Akin.run_eq (h : Akin inv folder supplies inv' folder' supplies') :
    (inv.program.run (inv.client.host folder') supplies').result =
        (inv.program.run (inv.client.host folder) supplies).result ∧
      (inv.program.run (inv.client.host folder') supplies').trace =
        (inv.program.run (inv.client.host folder) supplies).trace := by
  apply run_replayed inv.program h.network
  · intro c hc
    refine Call.body_congr fun file hfile => h.content file ?_
    have hlaunched := launched_run inv.order (inv.client.host folder) supplies
    obtain ⟨others, hf, -⟩ := (callSequence_of_launched hlaunched).scheduling_of_jobFile? hc hfile
    rw [hf, List.head?_cons]
  · exact takeLines_congr (length_answersOf_le inv _ supplies) h.line

theorem Akin.obey (h : Akin inv folder supplies inv' folder' supplies') :
    (Session.obey inv folder supplies).SameButLog (Session.obey inv' folder' supplies') := by
  cases hfail : inv.failure? with
  | some failure =>
      rw [obey_of_failure hfail, obey_of_failure (h.failure?_eq.trans hfail)]
      exact Ending.sameButLog_of rfl rfl
  | none =>
      rw [obey_of_started hfail, obey_of_started (h.failure?_eq.trans hfail), h.client_eq]
      have hne : inv.order.files ≠ [] := by
        rintro hf
        simp [Invocation.failure?, hf] at hfail
      obtain ⟨file, others, hf⟩ := List.exists_cons_of_ne_nil hne
      obtain ⟨hresult, htrace⟩ := h.run_eq
      obtain ⟨halike, heq⟩ := (h.agree hf).run (inv.client.host folder') supplies'
      apply Ending.sameButLog_of
      · rw [← heq, hresult]
      · rw [← halike.trace, htrace]

end Session

/-- Two sessions show the same, send the same and end the same, with the same causes, if they have
the first file in common with its content, the cluster or else the group, the address, the key, the
replies of the server and the first line of the input. The answer to a question is always in the
first line, and what stands behind this line is left there. -/
theorem first_file_and_line_suffice {env env' : Environment} {words words' : List String}
    {inv inv' : Invocation} {folder folder' : Folder} {supplies supplies' : Supplies}
    (hparse : Invocation.parse env words = .ok inv)
    (hparse' : Invocation.parse env' words' = .ok inv')
    (h : Session.Akin inv folder supplies inv' folder' supplies') :
    (∃ ending ending', Session.run env words folder supplies = .ok ending ∧
      Session.run env' words' folder' supplies' = .ok ending' ∧ ending.SameButLog ending') ∧
    (∀ answered ∈ answersOf (inv.program.history (inv.client.host folder) supplies),
      answered.2 = answerOf (firstLine supplies.input)) ∧
    ∃ taken, taken ++ (inv.program.run (inv.client.host folder) supplies).state.input =
        supplies.input ∧ (taken = [] ∨ taken = firstLine supplies.input) := by
  have hone := Session.length_answersOf_le inv (inv.client.host folder) supplies
  refine ⟨⟨_, _, run_of_parse hparse, run_of_parse hparse', h.obey⟩, ?_, ?_⟩
  · intro answered hm
    obtain ⟨other, hanswers⟩ := List.length_eq_one_iff.mp
      (le_antisymm hone (List.length_pos_of_mem hm))
    obtain rfl := List.mem_singleton.mp (hanswers ▸ hm)
    rw [answer_of_first inv.program supplies hanswers, readAnswer, takeLine_fst]
  · rw [input_run]
    rcases Nat.le_one_iff_eq_zero_or_eq_one.mp hone with hnone | hone
    · exact ⟨[], by rw [hnone]; rfl, Or.inl rfl⟩
    · exact ⟨_, by rw [hone]; exact takeLine_append supplies.input, Or.inr (takeLine_fst _)⟩

/-- A second file, a group on a cluster, another version and a second line of the input that is no
text. -/
theorem first_file_and_line_suffice_for_sample :
    let platform := ["--platform-url", "http://[::1]:8080", "launch", "--cluster", "desk"]
    let folder : Folder := ⟨[(["job.yaml"], .file [])]⟩
    let folder' : Folder := ⟨[(["job.yaml"], .file []), (["more.yaml"], .folder)]⟩
    ∃ ending ending',
      Session.run ⟨none, none, none⟩ (platform ++ ["job.yaml"]) folder ⟨.queueing, [0x79, 10]⟩ =
        .ok ending ∧
      Session.run ⟨none, none, none⟩
        (platform ++ ["--group", "night", "-v", "dev", "job.yaml", "more.yaml"]) folder'
        ⟨.queueing, [0x79, 10, 0xFF, 10]⟩ = .ok ending' ∧
      ending.SameButLog ending' := by
  intro platform folder folder'
  let inv : Invocation :=
    ⟨some "http://[::1]:8080", none, .release, ⟨["job.yaml"], some "desk", none⟩⟩
  let inv' : Invocation :=
    ⟨some "http://[::1]:8080", none, .dev, ⟨["job.yaml", "more.yaml"], some "desk", some "night"⟩⟩
  have hparse : Invocation.parse ⟨none, none, none⟩ (platform ++ ["job.yaml"]) = .ok inv := by
    decide +kernel
  have hparse' : Invocation.parse ⟨none, none, none⟩
      (platform ++ ["--group", "night", "-v", "dev", "job.yaml", "more.yaml"]) = .ok inv' := by
    decide +kernel
  have hakin : Session.Akin inv folder ⟨.queueing, [0x79, 10]⟩ inv' folder'
      ⟨.queueing, [0x79, 10, 0xFF, 10]⟩ :=
    { file := rfl
      content := by
        rintro file ⟨⟩
        decide +kernel
      cluster := rfl
      group := by rintro ⟨⟩
      address := by decide +kernel
      key := rfl
      network := rfl
      line := by decide }
  exact (first_file_and_line_suffice hparse hparse' hakin).1

end LaunchDesk
