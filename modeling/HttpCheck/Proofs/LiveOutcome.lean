import HttpCheck.Executor.Live
import HttpCheck.Proofs.Target
import HttpCheck.Proofs.Except
/-!
# What the network executor answers

The executor reads the request's target as an absolute URL before anything else: a target
that is not one (a path or the asterisk alone among them) is an invalid request whatever
its cancellation and whatever the network would do. A readable target of a cancelled request
is answered `cancelled` without the transport being asked. Every other request goes to the
client with one deadline, the request's own or else the executor's default, and every
failure of the client is named by `classify` with that same deadline in whole
milliseconds, as a 64-bit number, or `0` without one.

A failed connection is named after the text of the error, which holds the URL the failure
names: for a URL whose text speaks of none of `dns`, `resolve` and `refused`, or no URL,
the name follows the causes alone, while a URL path such as `/dns` turns a connection that
failed for want of a route into a failed name resolution. Host and port are read from the
same URL, the hop that failed.
-/
namespace HttpCheck.Executor

open HttpCheck.Http HttpCheck.Pipeline

/-! ### Reading words in an error's text -/

/-- A word that does not hold a separator lies on one side of it. -/
theorem infix_append_cons_iff {α : Type} {w a b : List α} {c : α} (hc : c ∉ w) :
    w <:+: a ++ c :: b ↔ w <:+: a ∨ w <:+: b := by
  constructor
  · rintro ⟨s, t, h⟩
    rw [List.append_assoc, List.append_eq_append_iff] at h
    rcases h with ⟨as, rfl, h⟩ | ⟨bs, rfl, h⟩
    · -- the word starts before the separator, so it also ends before it
      rw [List.append_eq_append_iff] at h
      rcases h with ⟨xs, rfl, -⟩ | ⟨ys, rfl, h⟩
      · exact .inl ⟨s, xs, by simp⟩
      · cases ys with
        | nil => exact .inl ⟨s, [], by simp⟩
        | cons y ys =>
          simp only [List.cons_append, List.cons.injEq] at h
          exact absurd (by simp [h.1]) hc
    · -- the word starts at the separator or after it
      cases bs with
      | nil =>
        cases w with
        | nil => exact .inl List.nil_infix
        | cons y ys =>
          simp only [List.nil_append, List.cons_append, List.cons.injEq] at h
          exact absurd (by simp [h.1]) hc
      | cons z bs =>
        simp only [List.cons_append, List.cons.injEq] at h
        exact .inr ⟨bs, t, by simp [h.2]⟩
  · rintro (h | h)
    · exact h.trans List.infix_append_left
    · exact h.trans ⟨a ++ [c], [], by simp⟩

/-- The characters of a text, lowered. -/
def lowered (s : String) : List Char := s.toList.map Char.toLower

/-- Whether a text speaks of a word, whatever the case of its letters. -/
def speaksOf (s w : String) : Bool := mentions (String.ofList (lowered s)) w

theorem speaksOf_iff {s w : String} : speaksOf s w = true ↔ w.toList <:+: lowered s := by
  simp [speaksOf, mentions, String.toList_ofList]

theorem speaksOf_eq_false {s w : String} (h : ¬ w.toList <:+: lowered s) :
    speaksOf s w = false := by
  cases hs : speaksOf s w with
  | false => rfl
  | true => exact absurd (speaksOf_iff.1 hs) h

theorem any_speaksOf_eq_true {causes : List String} {w : String}
    (h : ∃ c ∈ causes, w.toList <:+: lowered c) : causes.any (speaksOf · w) = true := by
  obtain ⟨c, hc, hw⟩ := h
  exact List.any_eq_true.2 ⟨c, hc, speaksOf_iff.2 hw⟩

theorem any_speaksOf_eq_false {causes : List String} {w : String}
    (h : ∀ c ∈ causes, ¬ w.toList <:+: lowered c) : causes.any (speaksOf · w) = false := by
  cases hs : causes.any (speaksOf · w) with
  | false => rfl
  | true =>
    obtain ⟨c, hc, hw⟩ := List.any_eq_true.1 hs
    exact absurd (speaksOf_iff.1 hw) (h c hc)

theorem lowered_chainText (head : String) (causes : List String) :
    lowered (chainText head causes) =
      lowered head ++ causes.flatMap (fun c => ':' :: ' ' :: lowered c) := by
  simp [lowered, chainText, String.toList_join, List.map_flatMap, List.flatMap_map]

/-- A word that holds no separator of a chain is found before it or in one cause. -/
theorem infix_causes_iff {w : List Char} (hw : w ≠ []) (hcolon : ':' ∉ w) (hspace : ' ' ∉ w)
    (x : List Char) (causes : List String) :
    w <:+: x ++ causes.flatMap (fun c => ':' :: ' ' :: lowered c) ↔
      w <:+: x ∨ ∃ c ∈ causes, w <:+: lowered c := by
  induction causes generalizing x with
  | nil => simp
  | cons c cs ih =>
    have hsplit : x ++ (c :: cs).flatMap (fun c => ':' :: ' ' :: lowered c) =
        x ++ ':' :: ([] ++ ' ' ::
          (lowered c ++ cs.flatMap (fun c => ':' :: ' ' :: lowered c))) := by
      simp
    rw [hsplit, infix_append_cons_iff hcolon, infix_append_cons_iff hspace, ih]
    simp [List.infix_nil, hw]

theorem lowered_sendingRequest_forUrl (u : Url) :
    lowered (sendingRequest ++ forUrl (some u)) =
      lowered "error sending request for url " ++ '(' :: (lowered u.render ++ [')']) := by
  have hlit : (sendingRequest ++ " for url (").toList =
      "error sending request for url ".toList ++ ['('] := by decide +kernel
  have hclose : ")".toList = [')'] := by simp
  have hlower : Char.toLower '(' = '(' ∧ Char.toLower ')' = ')' := by decide
  unfold lowered forUrl
  simp only [← String.append_assoc, String.toList_append, hlit, hclose]
  simp only [List.map_append, List.map_cons, List.map_nil, hlower, List.append_assoc,
    List.cons_append, List.nil_append]

theorem lowered_sendingRequest_none :
    lowered (sendingRequest ++ forUrl none) = lowered "error sending request" := by
  unfold forUrl
  rw [String.append_empty]
  rfl

/-- The words a failed connection is named by. -/
def connectWords : List String := ["dns", "resolve", "refused"]

theorem forall_mem_connectWords {P : String → Prop} :
    (∀ w ∈ connectWords, P w) ↔ P "dns" ∧ P "resolve" ∧ P "refused" := by
  simp [connectWords]

theorem mem_connectWords :
    "dns" ∈ connectWords ∧ "resolve" ∈ connectWords ∧ "refused" ∈ connectWords :=
  forall_mem_connectWords.1 fun _ hw => hw

/-- The words hold no separator of an error's text, and its fixed head holds none of them. -/
theorem connectWord_shape : ∀ w ∈ connectWords,
    w.toList ≠ [] ∧ ':' ∉ w.toList ∧ ' ' ∉ w.toList ∧ '(' ∉ w.toList ∧ ')' ∉ w.toList ∧
      ¬ w.toList <:+: lowered "error sending request for url " ∧
      ¬ w.toList <:+: lowered "error sending request" :=
  forall_mem_connectWords.2 ⟨by decide +kernel, by decide +kernel, by decide +kernel⟩

/-- A failed connection's text speaks of one of the words exactly when the URL it names or
one of its causes does. -/
theorem speaksOf_connect {w : String} (hw : w ∈ connectWords) (url : Option Url)
    (causes : List String) :
    speaksOf (chainText (sendingRequest ++ forUrl url) causes) w =
      (url.any (fun u => speaksOf u.render w) || causes.any (speaksOf · w)) := by
  obtain ⟨hne, hcolon, hspace, hopen, hclose, hpre, hbare⟩ := connectWord_shape w hw
  rw [Bool.eq_iff_iff, Bool.or_eq_true, List.any_eq_true, speaksOf_iff,
    lowered_chainText, infix_causes_iff hne hcolon hspace]
  cases url with
  | none => simp only [lowered_sendingRequest_none, hbare, Option.any_none, Bool.false_eq_true,
      false_or, speaksOf_iff]
  | some u =>
    rw [lowered_sendingRequest_forUrl, infix_append_cons_iff hopen, infix_append_cons_iff hclose]
    simp only [hpre, false_or, List.infix_nil, hne, or_false, speaksOf_iff, Option.any_some]

end HttpCheck.Executor

/-! ### Targets that are not URLs -/

namespace HttpCheck.Http

theorem Url.parse_of_scheme_none {s : String}
    (h : splitScheme (s.toList.filter fun c => c != '\t' && c != '\n' && c != '\r') = none) :
    Url.parse s = .error .relativeWithoutBase := by
  unfold Url.parse
  simp only [h]
  rfl

theorem splitScheme_of_not_alpha {c : Char} {cs : List Char} (hc : c.isAlpha = false) :
    splitScheme (c :: cs) = none := by
  simp [splitScheme, hc]

/-- A target without scheme and authority is written as a path from the root, or as the
asterisk. -/
theorem Uri.render_relative {u : Uri} (hu : u.WellFormed) (hs : u.scheme = none)
    (ha : u.authority = "") : (∃ rest, u.render = "/" ++ rest) ∨ u.render = "*" := by
  by_cases hstar : u.IsAsterisk
  · obtain ⟨u_s, u_a, u_t⟩ := hstar
    obtain ⟨s, a, t⟩ := u
    simp only at u_s u_a u_t
    subst u_s u_a u_t
    exact .inr (by decide)
  · obtain ⟨⟨r, hr⟩, -⟩ := Uri.path_slash hu (fun h => h.2 ha) hstar
    cases hq : u.query with
    | none =>
      exact .inl ⟨r, by simp only [Uri.render, hs, ha, hr, hq, String.empty_append,
        String.append_empty]⟩
    | some q =>
      exact .inl ⟨r ++ "?" ++ q, by simp only [Uri.render, hs, ha, hr, hq, String.empty_append,
        String.append_assoc]⟩

/-- Neither a path nor the asterisk reads as a URL: neither starts with a scheme. -/
theorem Url.parse_relative {u : Uri} (hu : u.WellFormed) (hs : u.scheme = none)
    (ha : u.authority = "") : Url.parse u.render = .error .relativeWithoutBase := by
  apply Url.parse_of_scheme_none
  rcases Uri.render_relative hu hs ha with ⟨rest, h⟩ | h
  · rw [h, String.toList_append]
    exact splitScheme_of_not_alpha (by decide)
  · rw [h]
    decide

end HttpCheck.Http

/-! ### Naming a failure -/

namespace HttpCheck.Executor

open HttpCheck.Http HttpCheck.Pipeline

namespace LiveExecutor

variable (e : LiveExecutor) (ms : Nat) (url : Option Url)

/-- A failed connection is named by the words its whole text speaks of, with the host and
port of the URL the failure names. -/
theorem classify_connect (causes : List String) :
    e.classify ms ⟨.connect, url, causes⟩ =
      if speaksOf (chainText (sendingRequest ++ forUrl url) causes) "dns" ||
          speaksOf (chainText (sendingRequest ++ forUrl url) causes) "resolve" then
        .dnsError ((url.bind Url.hostText?).getD "unknown")
          (chainText (sendingRequest ++ forUrl url) causes)
      else if speaksOf (chainText (sendingRequest ++ forUrl url) causes) "refused" then
        .connectionRefused ((url.bind Url.hostText?).getD "unknown")
          ((url.bind Url.portOrDefault?).getD 80)
      else .connectionFailed (chainText (sendingRequest ++ forUrl url) causes) := rfl

/-- A failed connection naming a URL whose text speaks of none of the words, or no URL, is
named after its causes alone: a failed name resolution when one of them speaks of `dns` or
`resolve`, else a refused connection when one speaks of `refused`, else a failed
connection. -/
theorem classify_connect_of_plain
    (hplain : ∀ u ∈ url, ∀ w ∈ connectWords, speaksOf u.render w = false) (causes : List String) :
    e.classify ms ⟨.connect, url, causes⟩ =
      if causes.any (speaksOf · "dns") || causes.any (speaksOf · "resolve") then
        .dnsError ((url.bind Url.hostText?).getD "unknown")
          (chainText (sendingRequest ++ forUrl url) causes)
      else if causes.any (speaksOf · "refused") then
        .connectionRefused ((url.bind Url.hostText?).getD "unknown")
          ((url.bind Url.portOrDefault?).getD 80)
      else .connectionFailed (chainText (sendingRequest ++ forUrl url) causes) := by
  -- each word is found in the text exactly when it is found in a cause
  have hcauses : ∀ w ∈ connectWords,
      speaksOf (chainText (sendingRequest ++ forUrl url) causes) w =
        causes.any (speaksOf · w) := by
    intro w hw
    rw [speaksOf_connect hw]
    cases url with
    | none => rfl
    | some u => rw [Option.any_some, hplain u rfl w hw, Bool.false_or]
  obtain ⟨hdns, hresolve, hrefused⟩ := forall_mem_connectWords.1 hcauses
  rw [classify_connect, hdns, hresolve, hrefused]

/-! ### Executing a request -/

variable (url : Url) (t : Transport) {req : Request}

theorem execute_of_parse_error {err : UrlError} (h : Url.parse req.uri.render = .error err) :
    e.execute t req = .error (.invalidRequest (builderError ++ ": " ++ err.message)) := by
  simp only [execute, h]

theorem execute_of_cancelled (h : Url.parse req.uri.render = .ok url)
    (hc : req.context.cancelled = true) : e.execute t req = .error .cancelled := by
  simp only [execute, h, hc, if_true]

theorem execute_of_sent (h : Url.parse req.uri.render = .ok url)
    (hc : req.context.cancelled = false) :
    e.execute t req = (clientSend t (e.outbound req url (e.deadline req))).mapError
      (e.classify (reportedMillis (e.deadline req))) := by
  simp only [execute, h, hc, Bool.false_eq_true, if_false]

@[simp] theorem outbound_timeout (req : Request) (d : Option Duration) :
    (e.outbound req url d).timeout = d := rfl

/-- The client keeps the URL as asked, credentials included. -/
@[simp] theorem outbound_url (req : Request) (d : Option Duration) :
    (e.outbound req url d).url = url := rfl

theorem deadline_of_own {d : Duration} (h : req.context.timeout = some d) :
    e.deadline req = some d := by
  unfold deadline
  rw [h]
  rfl

theorem deadline_of_none (h : req.context.timeout = none) :
    e.deadline req = e.defaultTimeout := by
  unfold deadline
  rw [h]
  rfl

theorem defaultTimeout_fromConfig {c : ExecutorConfig} (h : fromConfig c = .ok e) :
    e.defaultTimeout = c.timeout := by
  unfold fromConfig at h
  split at h
  · cases h
    rfl
  · cases h

end LiveExecutor

theorem clientSend_of_web {t : Transport} {out : Outbound}
    (h : out.url.scheme = "http" ∨ out.url.scheme = "https") : clientSend t out = t out := by
  rcases h with h | h <;> simp [clientSend, h]

theorem clientSend_of_other {t : Transport} {out : Outbound} (hhttp : out.url.scheme ≠ "http")
    (hhttps : out.url.scheme ≠ "https") :
    clientSend t out = .error ⟨.builder, some out.url, ["URL scheme is not allowed"]⟩ := by
  simp [clientSend, hhttp, hhttps]

/-- A URL of the web goes to the transport, with its deadline, and what the transport
answers is the answer, its failures named. -/
theorem LiveExecutor.execute_of_web {e : LiveExecutor} {t : Transport} {req : Request}
    {url : Url} (h : Url.parse req.uri.render = .ok url) (hc : req.context.cancelled = false)
    (hweb : url.scheme = "http" ∨ url.scheme = "https") :
    e.execute t req =
      (t (e.outbound req url (e.deadline req))).mapError
        (e.classify (reportedMillis (e.deadline req))) := by
  rw [e.execute_of_sent url t h hc, clientSend_of_web (by rw [outbound_url]; exact hweb)]

/-- A URL of a scheme other than `http` and `https` never reaches the transport: the client
refuses it, and the refusal is named as a failure of another kind, with the URL as asked. -/
theorem LiveExecutor.execute_of_other_scheme {e : LiveExecutor} {t : Transport} {req : Request}
    {url : Url} (h : Url.parse req.uri.render = .ok url) (hc : req.context.cancelled = false)
    (hhttp : url.scheme ≠ "http") (hhttps : url.scheme ≠ "https") :
    e.execute t req =
      .error (.other (chainText (builderError ++ forUrl (some url))
        ["URL scheme is not allowed"])) := by
  have hscheme : (e.outbound req url (e.deadline req)).url.scheme = url.scheme := by
    rw [outbound_url]
  rw [e.execute_of_sent url t h hc, clientSend_of_other (hscheme ▸ hhttp) (hscheme ▸ hhttps),
    mapError_error]
  rfl

/-! ### What the executor answers -/

namespace LiveExecutor

/-- A deadline of whole milliseconds that a 64-bit number holds, as every configured one
is, is reported as exactly its number. -/
theorem reportedMillis_timeout {c : ExecutorConfig} {ms : Nat} (h : c.timeoutMs = some ms)
    (hms : ms ≤ Duration.u64Max) : reportedMillis c.timeout = ms := by
  rw [ExecutorConfig.timeout, h, Option.map_some, reportedMillis_some]
  exact Duration.millisU64_ofMillis hms

/-- The executor reads the target as a URL first: one that does not read (a path or the
asterisk among them) is an invalid request, cancelled or not and whatever the transport.
A cancelled request with a URL is answered `cancelled` whatever the transport. Any other
request goes to the client with the request's own deadline, else the executor's default
(the configured one, none for an executor over a given client), and what the client
answers is the answer, its failures named with that same deadline in whole milliseconds,
the largest 64-bit number standing for any longer, or `0` without one; a configured
deadline is named with exactly its number. -/
theorem live_execute_precedence (e : LiveExecutor) (req : Request) :
    (∀ err, Url.parse req.uri.render = .error err → ∀ t,
      e.execute t req = .error (.invalidRequest (builderError ++ ": " ++ err.message))) ∧
    (req.uri.WellFormed → req.uri.scheme = none → req.uri.authority = "" → ∀ t,
      e.execute t req = .error (.invalidRequest "builder error: relative URL without a base")) ∧
    (∀ url, Url.parse req.uri.render = .ok url → req.context.cancelled = true → ∀ t,
      e.execute t req = .error .cancelled) ∧
    (∀ url, Url.parse req.uri.render = .ok url → req.context.cancelled = false →
      (e.outbound req url (e.deadline req)).timeout = e.deadline req ∧ ∀ t,
        e.execute t req = (clientSend t (e.outbound req url (e.deadline req))).mapError
          (e.classify (reportedMillis (e.deadline req)))) ∧
    (∀ d, req.context.timeout = some d → e.deadline req = some d) ∧
    (req.context.timeout = none → e.deadline req = e.defaultTimeout) ∧
    (∀ c, fromConfig c = .ok e → e.defaultTimeout = c.timeout) ∧
    (∀ policy reported, (withClient policy reported).defaultTimeout = none) ∧
    (∀ d, reportedMillis (some d) = min d.millis Duration.u64Max) ∧ reportedMillis none = 0 ∧
    (∀ (c : ExecutorConfig) ms, c.timeoutMs = some ms → ms ≤ Duration.u64Max →
      reportedMillis c.timeout = ms) := by
  refine ⟨fun _ h t => e.execute_of_parse_error t h, fun hu hs ha t => ?_,
    fun url h hc t => e.execute_of_cancelled url t h hc,
    fun url h hc => ⟨e.outbound_timeout url req _, fun t => e.execute_of_sent url t h hc⟩,
    fun _ h => e.deadline_of_own h, e.deadline_of_none, fun _ h => defaultTimeout_fromConfig e h,
    fun _ _ => rfl, fun _ => rfl, reportedMillis_none,
    fun _ _ h hms => reportedMillis_timeout h hms⟩
  rw [e.execute_of_parse_error t (Url.parse_relative hu hs ha)]
  rfl

end LiveExecutor

/-! ### Naming failed connections by their causes -/

namespace LiveExecutor

/-- How a failure of the client is named, when the URL it names speaks of none of the words
a failed connection is named by, or it names none: a passed deadline by that deadline, a
failed connection by its causes (a failed name resolution, else a refused connection at the
port of the URL or its scheme's, else a failed connection with the text), too many
redirects by the limit the executor was given, whatever the client followed, and the rest
by kind with the text. Host and port come from the URL the failure names, the hop that
failed, and the text names it too. -/
theorem failures_named_by_kind (e : LiveExecutor) (ms : Nat) (url : Option Url)
    (hplain : ∀ u ∈ url, ∀ w ∈ connectWords, speaksOf u.render w = false) :
    (∀ causes, e.classify ms ⟨.timedOut, url, causes⟩ = .timeout ms) ∧
    (∀ causes, e.classify ms ⟨.connect, url, causes⟩ =
      if causes.any (speaksOf · "dns") || causes.any (speaksOf · "resolve") then
        .dnsError ((url.bind Url.hostText?).getD "unknown")
          (chainText (sendingRequest ++ forUrl url) causes)
      else if causes.any (speaksOf · "refused") then
        .connectionRefused ((url.bind Url.hostText?).getD "unknown")
          ((url.bind Url.portOrDefault?).getD 80)
      else .connectionFailed (chainText (sendingRequest ++ forUrl url) causes)) ∧
    (∀ policy reported causes, (withClient policy reported).classify ms ⟨.redirect, url, causes⟩ =
      .tooManyRedirects reported) ∧
    (∀ causes, e.classify ms ⟨.body, url, causes⟩ =
      .body (chainText ("request or response body error" ++ forUrl url) causes)) ∧
    (∀ causes, e.classify ms ⟨.decode, url, causes⟩ =
      .body (chainText ("error decoding response body" ++ forUrl url) causes)) ∧
    (∀ causes, e.classify ms ⟨.builder, url, causes⟩ =
      .other (chainText (builderError ++ forUrl url) causes)) ∧
    (∀ causes, e.classify ms ⟨.other, url, causes⟩ =
      .other (chainText (sendingRequest ++ forUrl url) causes)) :=
  ⟨fun _ => rfl, classify_connect_of_plain e ms url hplain, fun _ _ _ => rfl, fun _ => rfl,
    fun _ => rfl, fun _ => rfl, fun _ => rfl⟩

/-- A refused connection to the loopback address is named after its cause. -/
theorem failures_named_by_kind_refused :
    (∀ u ∈ some (⟨"http", "", none, some (.ipv4 0x7F000001), some 47312, "/", none⟩ : Url),
      ∀ w ∈ connectWords, speaksOf u.render w = false) ∧
    (withClient 10 3).classify 0
        ⟨.connect, some ⟨"http", "", none, some (.ipv4 0x7F000001), some 47312, "/", none⟩,
          ["tcp connect error", "Connection refused (os error 111)"]⟩ =
      .connectionRefused "127.0.0.1" 47312 := by
  have hplain :
      ∀ u ∈ some (⟨"http", "", none, some (.ipv4 0x7F000001), some 47312, "/", none⟩ : Url),
        ∀ w ∈ connectWords, speaksOf u.render w = false := by
    rintro u ⟨⟩
    exact forall_mem_connectWords.2 ⟨speaksOf_eq_false (by decide +kernel),
      speaksOf_eq_false (by decide +kernel), speaksOf_eq_false (by decide +kernel)⟩
  refine ⟨hplain, ?_⟩
  rw [(failures_named_by_kind _ 0 _ hplain).2.1,
    @any_speaksOf_eq_false _ "dns" (by decide +kernel),
    @any_speaksOf_eq_false _ "resolve" (by decide +kernel),
    @any_speaksOf_eq_true _ "refused" (by decide +kernel)]
  decide +kernel

/-- A connection that fails for want of a route, naming a URL whose path is `/dns`, is named
a failed name resolution, although no cause speaks of one: the executor reads the words in
the URL too. -/
theorem dns_path_names_unreachable_host :
    (∀ w ∈ connectWords, ["client error (Connect)", "tcp connect error",
      "Network is unreachable (os error 101)"].any (speaksOf · w) = false) ∧
    ∀ e : LiveExecutor,
      e.classify 0
        ⟨.connect, some ⟨"http", "", none, some (.ipv4 0x7F000001), some 47312, "/dns", none⟩,
          ["client error (Connect)", "tcp connect error",
            "Network is unreachable (os error 101)"]⟩ =
      .dnsError "127.0.0.1" ("error sending request for url (http://127.0.0.1:47312/dns): " ++
        "client error (Connect): tcp connect error: Network is unreachable (os error 101)") := by
  refine ⟨forall_mem_connectWords.2 ⟨any_speaksOf_eq_false (by decide +kernel),
    any_speaksOf_eq_false (by decide +kernel), any_speaksOf_eq_false (by decide +kernel)⟩,
    fun e => ?_⟩
  · -- the word is found in the URL, so the causes are not read
    have hdns : speaksOf (chainText (sendingRequest ++
        forUrl (some ⟨"http", "", none, some (.ipv4 0x7F000001), some 47312, "/dns", none⟩))
        ["client error (Connect)", "tcp connect error", "Network is unreachable (os error 101)"])
        "dns" = true := by
      rw [speaksOf_connect mem_connectWords.1, Bool.or_eq_true, Option.any_some]
      exact .inl (speaksOf_iff.2 (by decide +kernel))
    rw [classify_connect, hdns, Bool.true_or, if_pos rfl]
    decide +kernel

end LiveExecutor

end HttpCheck.Executor
