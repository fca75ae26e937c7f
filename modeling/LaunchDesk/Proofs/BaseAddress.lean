import LaunchDesk.Proofs.Secrecy
import Mathlib.Data.List.DropRight

/-!
# The address that a client keeps

An address is checked as it is given, and only then are the slashes at its end dropped. What is kept
of it is still an address of the web, with one exception: of a scheme and slashes alone, the scheme
loses its own slashes, too, and the calls go to a server that nobody named.

## Implementation notes

What is kept of a text is the one start of it that does not end in a slash and leaves slashes alone;
all that is said of an address follows from this. The check is compared on the address as it is
given and on the one that is kept, so that the exception is an equivalence and no assumption.
-/

namespace LaunchDesk

open Http Program Text

/-- Slashes alone. -/
def slashes (n : Nat) : String :=
  String.ofList (List.replicate n '/')

/-- A text has a slash at its end. -/
def EndsInSlash (s : String) : Prop :=
  s.toList.getLast? = some '/'

instance (s : String) : Decidable (EndsInSlash s) :=
  inferInstanceAs (Decidable (_ = _))

/-- The scheme of an address of the web, with its colon. -/
def scheme (secure : Bool) : String :=
  if secure then "https:" else "http:"

/-- An address of the web that names no server: a scheme and slashes alone. -/
def OnlyScheme (url : String) : Prop :=
  ∃ secure n, url = scheme secure ++ slashes (2 + n)

section FinalSlashes

variable {url base rest : String}

theorem slashes_add (m n : Nat) : slashes (m + n) = slashes m ++ slashes n := by
  simp only [slashes, List.replicate_add, String.ofList_append]

/-- What is kept of a text is the start of it that does not end in a slash and leaves slashes
alone. -/
theorem withoutFinalSlashes_eq_iff :
    Client.withoutFinalSlashes url = base ↔ ¬ EndsInSlash base ∧ ∃ n, url = base ++ slashes n := by
  constructor
  · rintro rfl
    constructor
    · intro hlast
      rw [EndsInSlash, Client.withoutFinalSlashes, String.toList_ofList] at hlast
      obtain ⟨hne, hslash⟩ := List.mem_getLast?_eq_getLast hlast
      exact List.rdropWhile_last_not (· == '/') url.toList hne (beq_iff_eq.mpr hslash.symm)
    · have hend : url.toList.rtakeWhile (· == '/') =
          List.replicate (url.toList.rtakeWhile (· == '/')).length '/' := by
        refine List.eq_replicate_of_mem fun c hc => ?_
        have hslash := List.mem_rtakeWhile_imp (p := (· == '/')) hc
        exact beq_iff_eq.mp hslash
      refine ⟨(url.toList.rtakeWhile (· == '/')).length, ?_⟩
      rw [slashes, ← hend, Client.withoutFinalSlashes, ← String.ofList_append]
      exact ((congrArg String.ofList List.rdropWhile_append_rtakeWhile).trans
        String.ofList_toList).symm
  · rintro ⟨hlast, n, rfl⟩
    have hdrop : (base.toList ++ List.replicate n '/').rdropWhile (· == '/') =
        base.toList.rdropWhile (· == '/') := by
      simp [List.rdropWhile]
    have hkept : base.toList.rdropWhile (· == '/') = base.toList := by
      refine List.rdropWhile_eq_self_iff.mpr fun hne hslash => hlast ?_
      rw [EndsInSlash, List.getLast?_eq_some_getLast hne, beq_iff_eq.mp hslash]
    calc Client.withoutFinalSlashes (base ++ slashes n)
        = String.ofList ((base.toList ++ List.replicate n '/').rdropWhile (· == '/')) := by
          rw [Client.withoutFinalSlashes, String.toList_append, slashes, String.toList_ofList]
          rfl
      _ = base := by rw [hdrop, hkept, String.ofList_toList]

theorem not_endsInSlash_withoutFinalSlashes (url : String) :
    ¬ EndsInSlash (Client.withoutFinalSlashes url) :=
  (withoutFinalSlashes_eq_iff.mp rfl).1

/-- Slashes at the end do not matter for what is kept. -/
theorem withoutFinalSlashes_append_slashes (url : String) (n : Nat) :
    Client.withoutFinalSlashes (url ++ slashes n) = Client.withoutFinalSlashes url := by
  obtain ⟨hlast, m, hurl⟩ :=
    withoutFinalSlashes_eq_iff.mp (Eq.refl (Client.withoutFinalSlashes url))
  refine withoutFinalSlashes_eq_iff.mpr ⟨hlast, m + n, ?_⟩
  rw [slashes_add, ← String.append_assoc, ← hurl]

/-- What is kept once is kept again. -/
theorem withoutFinalSlashes_idempotent (url : String) :
    Client.withoutFinalSlashes (Client.withoutFinalSlashes url) = Client.withoutFinalSlashes url :=
  withoutFinalSlashes_eq_iff.mpr
    ⟨not_endsInSlash_withoutFinalSlashes url, 0, String.append_empty.symm⟩

/-- Nothing of a start is dropped that has no slash at its end, or behind which something is
kept. -/
theorem withoutFinalSlashes_append {start : String}
    (h : EndsInSlash start → Client.withoutFinalSlashes rest ≠ "") :
    Client.withoutFinalSlashes (start ++ rest) = start ++ Client.withoutFinalSlashes rest := by
  obtain ⟨hlast, n, hrest⟩ :=
    withoutFinalSlashes_eq_iff.mp (Eq.refl (Client.withoutFinalSlashes rest))
  refine withoutFinalSlashes_eq_iff.mpr ⟨?_, n, ?_⟩
  · by_cases hempty : Client.withoutFinalSlashes rest = ""
    · rw [hempty, String.append_empty]
      exact fun hstart => h hstart hempty
    · have hne : (Client.withoutFinalSlashes rest).toList ≠ [] := by
        simpa [String.toList_eq_nil_iff] using hempty
      rw [EndsInSlash, String.toList_append, List.getLast?_append_of_ne_nil _ hne]
      exact hlast
  · rw [String.append_assoc, ← hrest]

end FinalSlashes

section Schemes

variable {url : String}

theorem startsWith_iff {start s : String} :
    startsWith start s = true ↔ ∃ rest, s = start ++ rest := by
  rw [startsWith, List.isPrefixOf_iff_prefix]
  constructor
  · rintro ⟨rest, hrest⟩
    refine ⟨String.ofList rest, ?_⟩
    rw [← String.toList_inj, String.toList_append, String.toList_ofList, hrest]
  · rintro ⟨rest, rfl⟩
    exact ⟨rest.toList, String.toList_append.symm⟩

theorem webAddress_iff :
    webAddress url = true ↔ ∃ secure rest, url = scheme secure ++ slashes 2 ++ rest := by
  simp only [webAddress, Bool.or_eq_true, startsWith_iff, Bool.exists_bool]
  rfl

theorem not_endsInSlash_scheme (secure : Bool) : ¬ EndsInSlash (scheme secure) := by
  cases secure <;> decide

/-- Nothing but the scheme is kept of an address that names no server. -/
theorem withoutFinalSlashes_scheme (secure : Bool) (n : Nat) :
    Client.withoutFinalSlashes (scheme secure ++ slashes n) = scheme secure :=
  withoutFinalSlashes_eq_iff.mpr ⟨not_endsInSlash_scheme secure, n, rfl⟩

/-- What is kept of an address of the web is one, unless the address names no server. -/
theorem webAddress_withoutFinalSlashes_iff (h : webAddress url = true) :
    webAddress (Client.withoutFinalSlashes url) = true ↔ ¬ OnlyScheme url := by
  constructor
  · rintro hweb ⟨secure, n, rfl⟩
    rw [withoutFinalSlashes_scheme] at hweb
    cases secure <;> cases hweb
  · intro hno
    obtain ⟨secure, rest, rfl⟩ := webAddress_iff.mp h
    have hrest : Client.withoutFinalSlashes rest ≠ "" := by
      intro hempty
      obtain ⟨-, n, hn⟩ := withoutFinalSlashes_eq_iff.mp hempty
      refine hno ⟨secure, n, ?_⟩
      rw [slashes_add, ← String.append_assoc, hn, String.empty_append]
    rw [withoutFinalSlashes_append fun _ => hrest]
    exact webAddress_iff.mpr ⟨secure, _, rfl⟩

theorem not_blank_of_webAddress (h : webAddress url = true) : isBlankText url = false := by
  obtain ⟨secure, rest, rfl⟩ := webAddress_iff.mp h
  rw [isBlankText, String.toList_append, List.all_append, Bool.and_eq_false_iff]
  exact Or.inl (by cases secure <;> decide)

theorem startsWith_https (secure : Bool) (rest : String) :
    startsWith "https://" (scheme secure ++ slashes 2 ++ rest) = secure := by
  rw [startsWith, String.toList_append]
  cases secure <;> rfl

/-- Settings are of use exactly with an address of the web. -/
theorem fault?_eq_none_iff {s : Settings} :
    s.fault? = none ↔ webAddress s.platformUrl = true := by
  refine ⟨fun h => ?_, fault?_of_webAddress⟩
  unfold Settings.fault? at h
  split_ifs at h with hempty hweb
  exact hweb

end Schemes

section Addresses

theorem visible_scheme (secure : Bool) : ∀ c ∈ (scheme secure).toList, 0x20 < c.toNat := by
  cases secure <;> exact forall_mem_of_all (by decide)

/-- Cleaning leaves the scheme of an address as it is. -/
theorem cleaned_scheme (secure : Bool) (rest : String) :
    ∃ behind, Url.cleaned (scheme secure ++ rest) = (scheme secure).toList ++ behind := by
  have hfront : ((scheme secure).toList ++ rest.toList).dropWhile (fun c => c.toNat ≤ 0x20) =
      (scheme secure).toList ++ rest.toList := by
    cases secure <;> rfl
  obtain ⟨front, hcolon⟩ : ∃ front, (scheme secure).toList = front ++ [':'] := by
    cases secure
    · exact ⟨"http".toList, rfl⟩
    · exact ⟨"https".toList, rfl⟩
  refine ⟨(rest.toList.rdropWhile fun c => c.toNat ≤ 0x20).filter
    fun c => c ≠ '\t' ∧ c ≠ '\n' ∧ c ≠ '\r', ?_⟩
  have hback : ((scheme secure).toList ++ rest.toList).rdropWhile (fun c => c.toNat ≤ 0x20) =
      (scheme secure).toList ++ rest.toList.rdropWhile fun c => c.toNat ≤ 0x20 := by
    simp only [List.rdropWhile, hcolon, List.reverse_append, List.reverse_singleton,
      List.singleton_append]
    rw [dropWhile_append_stop (by decide)]
    simp
  have htrim : trimBy (fun c => decide (c.toNat ≤ 0x20)) (scheme secure ++ rest).toList =
      (scheme secure).toList ++ rest.toList.rdropWhile fun c => c.toNat ≤ 0x20 := by
    rw [trimBy, String.toList_append, hfront, ← hback]
    rfl
  rw [Url.cleaned, htrim, List.filter_append, filter_eq_of_visible (visible_scheme secure)]

/-- The scheme of an address settles whether its server is spoken to in secret. -/
theorem secure_of_parse? {secure : Bool} {rest : String} {url : Url}
    (h : Url.parse? (scheme secure ++ rest) = some url) : url.origin.secure = secure := by
  obtain ⟨behind, hclean⟩ := cleaned_scheme secure rest
  obtain ⟨text, hrest⟩ : ∃ text, Url.ofRest? secure text = some url := by
    rw [Url.parse?, hclean] at h
    refine ⟨behind.dropWhile Url.isSlash, ?_⟩
    cases secure <;> exact h
  rw [ofRest?_eq, Option.map_eq_some_iff] at hrest
  obtain ⟨origin, horigin, rfl⟩ := hrest
  simp only [Url.origin?, Option.pure_def, Option.bind_eq_bind, Option.bind_eq_some_iff,
    Option.some.injEq] at horigin
  obtain ⟨host, -, port, -, rfl⟩ := horigin
  rfl

/-- It does not matter how many slashes stand behind a scheme. -/
theorem parse?_scheme (secure : Bool) {rest : String} (h : ∀ c ∈ rest.toList, 0x20 < c.toNat) :
    Url.parse? (scheme secure ++ rest) =
      Url.ofRest? secure (rest.toList.dropWhile Url.isSlash) := by
  have hvisible : ∀ c ∈ (scheme secure ++ rest).toList, 0x20 < c.toNat := by
    intro c hc
    rw [String.toList_append, List.mem_append] at hc
    exact hc.elim (visible_scheme secure c) (h c)
  have hne : (scheme secure ++ rest).toList ≠ [] := by
    cases secure <;> simp [scheme]
  rw [Url.parse?, cleaned_of_visible hne hvisible, String.toList_append]
  cases secure <;> rfl

/-- Behind a scheme alone, the start of the path of a service is taken for a server. -/
theorem url?_of_scheme {client : Client} {secure : Bool} (h : client.baseUrl = scheme secure)
    (c : Call) : ∃ target, c.path = "/api" ++ String.ofList target ∧
      client.url? c.path =
        (Url.origin? secure "api".toList).map fun origin => ⟨origin, [], target, []⟩ := by
  have hplain : Plain ("v1/".toList ++ c.service) := by
    intro d hd
    rcases List.mem_append.mp hd with hd | hd
    · exact (by decide : Plain "v1/".toList) d hd
    · exact c.plain_service d hd
  refine ⟨'/' :: ("v1/".toList ++ c.service), ?_, ?_⟩
  · rw [c.path_eq]
    simp [String.ext_iff]
  · have hpath : c.path.toList = '/' :: ("api".toList ++ '/' :: ("v1/".toList ++ c.service)) := by
      rw [c.path_eq]
      simp
    have hvisible : ∀ d ∈ c.path.toList, 0x20 < d.toNat := by
      obtain ⟨t, ht, heq⟩ := c.exists_plain
      rw [heq, String.toList_ofList]
      exact ht.visible
    rw [Client.url?, h, parse?_scheme secure hvisible, hpath]
    exact ofRest?_bare secure (by decide : Bare "api".toList) hplain

end Addresses

namespace Invocation

variable {inv : Invocation}

/-- The same with slashes behind the address. -/
def slashed (inv : Invocation) (n : Nat) : Invocation :=
  { inv with platformUrl := some (inv.settings.platformUrl ++ slashes n) }

/-- What becomes of the address that is asked for. -/
structure KeepsAddress (inv : Invocation) : Prop where
  /-- What is kept of it passes the check again, unless it names no server. -/
  accepted : (inv.settings.withAddress inv.client.baseUrl).fault? = none ↔
    ¬ OnlyScheme inv.settings.platformUrl
  /-- What is kept has no slash at its end. -/
  trimmed : ¬ EndsInSlash inv.client.baseUrl
  /-- Another client for what is kept keeps all of it. -/
  stable : ∀ key, (Client.of inv.client.baseUrl key).baseUrl = inv.client.baseUrl
  /-- Each request is that of a call, and goes to the address of what is kept and the path of the
  service behind it, in secret if the address that is asked for says so. -/
  requests : ∀ folder supplies, ∀ r ∈ Trace.requests (Session.obey inv folder supplies).trace,
    ∃ c url, inv.client.Sends folder c r ∧ Url.parse? (inv.client.baseUrl ++ c.path) = some url ∧
      url.origin.secure = startsWith "https://" inv.settings.platformUrl ∧
      supplies.network.server = some url.origin
  /-- If it names no server, every call goes to one that is called like the start of the path. -/
  astray : OnlyScheme inv.settings.platformUrl → ∃ secure, ∀ c : Call,
    ∃ target, c.path = "/api" ++ String.ofList target ∧ inv.client.url? c.path =
      (Url.origin? secure "api".toList).map fun origin => ⟨origin, [], target, []⟩
  /-- With any number of slashes behind it the same is done. -/
  unmoved : ∀ n folder supplies,
    Session.obey (inv.slashed n) folder supplies = Session.obey inv folder supplies

theorem baseUrl_eq (inv : Invocation) :
    inv.client.baseUrl = Client.withoutFinalSlashes inv.settings.platformUrl :=
  rfl

/-- A request of a session is that of a call, sent to the address of its service. -/
theorem sends_of_mem_requests {folder : Folder} {supplies : Supplies} {r : Request}
    (hr : r ∈ Trace.requests (Session.obey inv folder supplies).trace) :
    ∃ c url, inv.client.Sends folder c r ∧ Url.parse? (inv.client.baseUrl ++ c.path) = some url ∧
      supplies.network.server = some url.origin := by
  cases hfailure : inv.failure? with
  | some failure =>
      rw [obey_of_failure hfailure] at hr
      cases hr
  | none =>
      rw [obey_of_started hfailure] at hr
      obtain ⟨c, -, himage⟩ := (mem_requests_iff (inv.client.serves_host folder)).mp hr
      obtain ⟨body, url, -, hurl, -, -, hserver, -⟩ := Client.image?_eq_some_iff.mp himage
      exact ⟨c, url, Client.sends_of_image himage, hurl, hserver⟩

/-- Slashes behind an address of the web leave all that is asked for as it is. -/
theorem obey_slashed (h : inv.settings.fault? = none) (n : Nat) (folder : Folder)
    (supplies : Supplies) :
    Session.obey (inv.slashed n) folder supplies = Session.obey inv folder supplies := by
  obtain ⟨secure, rest, hurl⟩ := webAddress_iff.mp (fault?_eq_none_iff.mp h)
  have hweb : webAddress (inv.settings.platformUrl ++ slashes n) = true :=
    webAddress_iff.mpr ⟨secure, rest ++ slashes n, by rw [hurl, String.append_assoc]⟩
  have hsettings : (inv.slashed n).settings =
      inv.settings.withAddress (inv.settings.platformUrl ++ slashes n) := by
    have haddress : (some (inv.settings.platformUrl ++ slashes n)).filter
        (fun url => !isBlankText url) = some (inv.settings.platformUrl ++ slashes n) := by
      rw [Option.filter_some, not_blank_of_webAddress hweb]
      rfl
    rw [slashed, settings, Settings.resolve, haddress]
    rfl
  have hclient : (inv.slashed n).client = inv.client := by
    rw [client, hsettings]
    simp only [Settings.withAddress, Client.of, withoutFinalSlashes_append_slashes]
    rfl
  have hfault : (inv.slashed n).settings.fault? = none := by
    rw [fault?_eq_none_iff, hsettings]
    exact hweb
  have hfailure : (inv.slashed n).failure? = inv.failure? := by
    rw [failure?, failure?, h, hfault]
    rfl
  have hprogram : (inv.slashed n).program = inv.program := by
    rw [program, program, hclient]
    rfl
  rw [Session.obey, Session.obey, hfailure, hclient, hprogram]

/-- Of an address that passes the check, the client keeps one that passes it again, has no slash at
its end and stays as it is; all requests go there, and slashes behind the address make no
difference. The one exception is a scheme with slashes alone: what is kept of it does not pass the
check, and the calls go to a server that nobody named. -/
theorem client_keeps_address (inv : Invocation) (h : inv.settings.fault? = none) :
    inv.KeepsAddress := by
  have hweb := fault?_eq_none_iff.mp h
  obtain ⟨secure, rest, hurl⟩ := webAddress_iff.mp hweb
  constructor
  · rw [fault?_eq_none_iff]
    exact webAddress_withoutFinalSlashes_iff hweb
  · exact not_endsInSlash_withoutFinalSlashes _
  · exact fun _ => withoutFinalSlashes_idempotent _
  · intro folder supplies r hr
    obtain ⟨c, url, hsends, hparse, hserver⟩ := sends_of_mem_requests hr
    refine ⟨c, url, hsends, hparse, ?_, hserver⟩
    have hbase : inv.client.baseUrl =
        scheme secure ++ Client.withoutFinalSlashes (slashes 2 ++ rest) := by
      rw [inv.baseUrl_eq, hurl, String.append_assoc]
      exact withoutFinalSlashes_append fun hno => absurd hno (not_endsInSlash_scheme secure)
    rw [hbase, String.append_assoc] at hparse
    rw [secure_of_parse? hparse, hurl, startsWith_https]
  · rintro ⟨secure, n, honly⟩
    refine ⟨secure, url?_of_scheme ?_⟩
    rw [inv.baseUrl_eq, honly, withoutFinalSlashes_scheme]
  · exact obey_slashed h

/-- A server with a port, and too many slashes behind it. -/
theorem client_keeps_address_of_sample :
    let inv : Invocation :=
      ⟨some "http://[::1]:8080///", some "key", .dev, ⟨["job.yaml"], none, none⟩⟩
    let folder : Folder := ⟨[(["job.yaml"], .file [])]⟩
    inv.client.baseUrl = "http://[::1]:8080" ∧
      (inv.settings.withAddress inv.client.baseUrl).fault? = none ∧
      Trace.requests (Session.obey (inv.slashed 2) folder ⟨.queueing, []⟩).trace =
        Trace.requests (Session.obey inv folder ⟨.queueing, []⟩).trace ∧
      Trace.requests (Session.obey inv folder ⟨.queueing, []⟩).trace ≠ [] := by
  intro inv folder
  have hkept := inv.client_keeps_address (by decide +kernel)
  refine ⟨by decide +kernel, hkept.accepted.mpr ?_, ?_, by decide +kernel⟩
  · rw [← webAddress_withoutFinalSlashes_iff (by decide +kernel)]
    decide +kernel
  · rw [hkept.unmoved]

/-- A scheme alone passes the check, and what is kept of it does not. -/
theorem address_not_kept_of_scheme :
    let inv : Invocation := ⟨some "http://", none, .release, ⟨["job.yaml"], none, none⟩⟩
    inv.settings.fault? = none ∧ inv.client.baseUrl = "http:" ∧
      (inv.settings.withAddress inv.client.baseUrl).fault? = some .foreignAddress ∧
      ∀ c : Call, ∃ target, c.path = "/api" ++ String.ofList target ∧ inv.client.url? c.path =
        (Url.origin? false "api".toList).map fun origin => ⟨origin, [], target, []⟩ := by
  intro inv
  have hbase : inv.client.baseUrl = scheme false := by decide +kernel
  exact ⟨by decide +kernel, hbase, by decide +kernel, url?_of_scheme hbase⟩

end Invocation

end LaunchDesk
