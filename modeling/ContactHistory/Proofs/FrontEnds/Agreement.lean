import ContactHistory.Proofs.FrontEnds.Arguments
import ContactHistory.Proofs.FrontEnds.Asked
import ContactHistory.Proofs.FrontEnds.Posted

namespace ContactHistory

open CommandLine Http Json Text

/-- The text of a history on one line. -/
def History.line (h : History) : String := (Payload.HistoryRecord.ofHistory h).toJson.compact

namespace Http.Answer

/-- The answer refuses with a response and runs nothing. -/
def Refuses (a : Answer) (response : Response) : Prop := a.response = some response ∧ a.run = none

/-- The answer tells of a run: its history, or that it failed. -/
def TellsOf (a : Answer) (run : Run) : Prop :=
  a.run = some run ∧
    a.response = match run.outcome with
      | .stalled => none
      | .failed _ => some aggregationFailed
      | .loaded h => some (.ofText 200 jsonType h.line)

end Http.Answer

/-- The ending tells of a run: its history is printed, or it failed. -/
def CommandLine.Ending.TellsOf (e : Ending) (run : Run) : Prop :=
  e = match run.outcome with
    | .stalled => .endless
    | .failed f => .failed (.aggregation f)
    | .loaded h => .printed (h.line ++ "\n") (some run)

namespace Question

theorem normalize_ne_empty {q : Question} (h : trimmed q.subject ≠ "") :
    Address.normalize q.subject ≠ "" := fun he => h (Address.normalize_eq_empty.mp he)

theorem toInquiry_of_blank {q : Question} (h : trimmed q.subject = "") (default : Selection) :
    q.toInquiry default = .error (invalidRequest "subject is required") :=
  if_pos (Address.normalize_eq_empty.mpr h)

theorem toInquiry_of_not_blank {q : Question} (h : trimmed q.subject ≠ "") (default : Selection) :
    q.toInquiry default = .ok (q.inquiry default) := if_neg (normalize_ne_empty h)

/-! ### Each front end -/

/-- The answer to a request that asks what a service makes of a question. -/
theorem answer_of_inquire {q : Question} {s : Service} {limit : Nat} {r : Request}
    (h : s.inquire limit r = some <$> q.toInquiry s.defaultSelection) (hhead : r.method ≠ "HEAD")
    (clocks : Clocks) (m : Metrics) :
    if trimmed q.subject = "" then
      (s.answer clocks limit r m).Refuses (invalidRequest "subject is required")
    else
      s.inquire limit r = .ok (some (q.inquiry s.defaultSelection)) ∧
        (s.answer clocks limit r m).TellsOf
          (s.runInquiry clocks.now (q.inquiry s.defaultSelection)) := by
  split
  · next hblank =>
    rw [toInquiry_of_blank hblank] at h
    rw [Service.answer_of_refusal h hhead]
    exact ⟨rfl, rfl⟩
  · next hblank =>
    rw [toInquiry_of_not_blank hblank] at h
    refine ⟨h, ?_⟩
    rw [Service.answer_of_inquiry h hhead]
    refine ⟨rfl, ?_⟩
    cases (s.runInquiry clocks.now (q.inquiry s.defaultSelection)).outcome <;> rfl

theorem run_options (q : Question) (settings : Settings) (databases : Databases) (now : Instant) :
    q.options.run settings databases now =
      if trimmed q.subject = "" then .error .blankSubject
      else .ok ((Service.ofDatabases settings databases).runInquiry now
        (q.inquiry (Settings.defaultSelection settings.defaultSources))) := by
  have hsubject : Address.normalize (trimmed q.subject) =
      Address.normalize (Address.normalize q.subject) := by
    rw [Address.normalize_trimmed, Address.normalize_normalize]
  change (if trimmed q.subject = "" then _ else _) = _
  split
  · rfl
  · exact congrArg _ (databases.aggregator.run_congr_subject hsubject _ _ now)

/-- Without a switch for many lines, the line of a history is printed. -/
theorem tellsOf_conclude (q : Question) (run : Run) :
    (match q.options.conclude run with
      | .error e => Ending.failed e
      | .ok ending => ending).TellsOf run := by
  unfold AggregateOptions.conclude Ending.TellsOf
  cases run.outcome <;> rfl

theorem run_arguments {w : Surroundings} {settings : Settings} {databases : Databases}
    (hconnect : Command.connect w = .ok (settings, databases)) (q : Question) :
    if trimmed q.subject = "" then CommandLine.run w q.arguments = .failed .blankSubject
    else (CommandLine.run w q.arguments).TellsOf
      ((Service.ofDatabases settings databases).runInquiry w.now
        (q.inquiry (Settings.defaultSelection settings.defaultSources))) := by
  have hrun := run_options q settings databases w.now
  unfold CommandLine.run
  rw [Command.read_arguments]
  simp only [Command.run, hconnect, hrun, bind, Except.bind]
  split
  · rfl
  · exact tellsOf_conclude q _

/-- A question that comma lists can hold is answered alike by the three front ends, over the same
databases and at the same time: both requests ask the same, and the command runs the same. Only a
body that is too long stands apart, for it is refused whatever it asks. -/
theorem front_ends_agree {w : Surroundings} {settings : Settings} {databases : Databases}
    (hconnect : Command.connect w = .ok (settings, databases)) {q : Question} (hq : q.Joinable)
    {post get : Request} (hpost : q.Posts post) (hget : q.Asks get) (limit : Nat)
    {clocks clocks' : Clocks} (hnow : clocks.now = w.now) (hnow' : clocks'.now = w.now)
    (m m' : Metrics) :
    let service := Service.ofDatabases settings databases
    let i := q.inquiry service.defaultSelection
    let run := service.runInquiry w.now i
    let posted := service.answer clocks limit post m
    let asked := service.answer clocks' limit get m'
    let ending := CommandLine.run w q.arguments
    (if limit < post.body.length then posted.Refuses (.plain 413 "length limit exceeded")
      else if trimmed q.subject = "" then posted.Refuses (invalidRequest "subject is required")
      else service.inquire limit post = .ok (some i) ∧ posted.TellsOf run) ∧
    (if trimmed q.subject = "" then asked.Refuses (invalidRequest "subject is required")
      else service.inquire limit get = .ok (some i) ∧ asked.TellsOf run) ∧
    (post.body.length ≤ limit → posted.response = asked.response) ∧
    ∃ options, Command.read q.arguments = .ok (.aggregate options) ∧
      if trimmed q.subject = "" then
        options.run settings databases w.now = .error .blankSubject ∧ ending = .failed .blankSubject
      else
        Address.normalize options.subject = i.subject ∧ options.selection settings = i.selection ∧
          options.filter = i.filter ∧ options.run settings databases w.now = .ok run ∧
          ending.TellsOf run := by
  have hposts := hpost.inquire (Service.ofDatabases settings databases) limit
  have hasks := hget.inquire hq (Service.ofDatabases settings databases) limit
  have hposthead : post.method ≠ "HEAD" := by
    rw [hpost.parts.1]
    decide
  have hgethead : get.method ≠ "HEAD" := by
    rw [hget.parts.1]
    decide
  have hposted (hlimit : ¬limit < post.body.length) :=
    answer_of_inquire (hposts.trans (if_neg hlimit)) hposthead clocks m
  have hasked := answer_of_inquire hasks hgethead clocks' m'
  have hoptions := run_options q settings databases w.now
  have hending := run_arguments hconnect q
  rw [hnow] at hposted
  rw [hnow'] at hasked
  refine ⟨?_, hasked, ?_, q.options, Command.read_arguments q, ?_⟩
  · split
    · next hlimit =>
      rw [Service.answer_of_refusal (hposts.trans (if_pos hlimit)) hposthead]
      exact ⟨rfl, rfl⟩
    · next hlimit => exact hposted hlimit
  · intro hlimit
    have hanswered := hposted (Nat.not_lt.mpr hlimit)
    split at hanswered
    · next hblank =>
      rw [if_pos hblank] at hasked
      exact hanswered.1.trans hasked.1.symm
    · next hblank =>
      rw [if_neg hblank] at hasked
      exact hanswered.2.2.trans hasked.2.2.symm
  · split
    · next hblank =>
      rw [if_pos hblank] at hoptions hending
      exact ⟨hoptions, hending⟩
    · next hblank =>
      rw [if_neg hblank] at hoptions hending
      exact ⟨rfl, rfl, rfl, hoptions, hending⟩

/-! ### Over databases without rows -/

def emptyDatabase : Database := ⟨fun _ _ _ => .ok [], fun _ => .ok [], .ok ()⟩

/-- An environment that tells where a database is, and a server for it. -/
def emptyPlace : Surroundings where
  environment := fun n => if n = Settings.databaseUrlName then .text "postgres://db" else .unset
  network := ⟨[("postgres://db", .ok emptyDatabase)], fun _ => .poolTimedOut⟩
  now := Instant.epoch

def emptyClocks : Clocks := .still emptyPlace.now

def emptySettings : Settings where
  address := .v4 0 0 0 0 8090
  databaseUrl := "postgres://db"
  indexUrl := none
  maxConnections := Settings.defaultMaxConnections
  defaultSources := []

theorem connect_emptyPlace :
    Command.connect emptyPlace = .ok (emptySettings, ⟨emptyDatabase, none⟩) := by
  have hload : Settings.load emptyPlace.environment = .ok emptySettings := by decide +kernel
  have hlocation : Database.Location.read "postgres://db" = .ok ⟨"db", none, 5432⟩ := by
    decide +kernel
  have hconnect : emptyPlace.network.connect "postgres://db" = .ok emptyDatabase := by
    unfold Network.connect
    rw [hlocation]
    rfl
  unfold Command.connect
  rw [hload]
  change (emptyPlace.network.connectAll emptySettings).mapError _ >>= _ = _
  unfold Network.connectAll
  change (emptyPlace.network.connect "postgres://db" >>= _).mapError _ >>= _ = _
  rw [hconnect]
  rfl

/-- The body of a question with all of its members. -/
def fullBody (q : Question) : Value :=
  .object [("subject", .text q.subject), ("sources", .ofTexts q.sources),
    ("filter", .object [("addresses", .ofTexts q.addresses)])]

theorem body_fullBody (q : Question) : q.Body q.fullBody :=
  ⟨.given _, .given (.given _), .refl _⟩

/-- A question with blanks, capital letters and an empty name. -/
def untidy : Question := ⟨" 0xABC", ["crc_trust", ""], ["0xDEF "]⟩

theorem joinable_untidy : untidy.Joinable where
  sources := by decide
  addresses := by decide
  named := .inr ⟨"crc_trust", by decide, by decide⟩

def untidyTarget : Request :=
  ⟨"GET", "/v1/subjects/%200xABC/contacts", some "sources=crc_trust%2C&addresses=0xDEF%20", [], []⟩

theorem asks_untidyTarget : untidy.Asks untidyTarget :=
  ⟨[], [], _, _, .given _, .given _, by decide +kernel⟩

/-- The three ways of one question over databases without rows. -/
theorem front_ends_agree_untidy :
    (bodyRequest untidy.fullBody).body.length ≤ bodyLimit ∧
      let service := Service.ofDatabases emptySettings ⟨emptyDatabase, none⟩
      let i := untidy.inquiry service.defaultSelection
      let run := service.runInquiry emptyPlace.now i
      (service.answer emptyClocks bodyLimit (bodyRequest untidy.fullBody) .empty).TellsOf run ∧
        (service.answer emptyClocks bodyLimit untidyTarget .empty).TellsOf run ∧
        (CommandLine.run emptyPlace untidy.arguments).TellsOf run := by
  have hlimit : (bodyRequest untidy.fullBody).body.length ≤ bodyLimit := by decide +kernel
  have hblank : trimmed untidy.subject ≠ "" := by decide
  have hnow : emptyClocks.now = emptyPlace.now := rfl
  have hagree := front_ends_agree connect_emptyPlace joinable_untidy (body_fullBody untidy).posts
    asks_untidyTarget bodyLimit hnow hnow .empty .empty
  obtain ⟨hposted, hasked, -, options, -, hcommand⟩ := hagree
  rw [if_neg (Nat.not_lt.mpr hlimit), if_neg hblank] at hposted
  rw [if_neg hblank] at hasked hcommand
  exact ⟨hlimit, hposted.2, hasked.2, hcommand.2.2.2.2⟩

/-- A question whose subject has more characters than a body may have bytes. -/
def lengthy : Question := ⟨String.ofList (List.replicate (bodyLimit + 1) 'a'), [], []⟩

theorem trimmed_lengthy : trimmed lengthy.subject ≠ "" := by
  have hlist : lengthy.subject.toList = 'a' :: List.replicate bodyLimit 'a' :=
    String.toList_ofList.trans List.replicate_succ
  have hblank : isBlank 'a' = false := by decide
  rw [Ne, trimmed_eq_empty, hlist, trim, trimStart_cons_of_not_blank hblank,
    trimEnd_cons_of_not_blank hblank]
  exact List.cons_ne_nil _ _

/-- The command runs a question whose body would be too long, and the service refuses the body. -/
theorem post_of_lengthy_refused :
    lengthy.Joinable ∧ trimmed lengthy.subject ≠ "" ∧
      lengthy.Posts (bodyRequest lengthy.fullBody) ∧
      (∀ (s : Service) (clocks : Clocks) (m : Metrics),
        (s.answer clocks bodyLimit (bodyRequest lengthy.fullBody) m).Refuses
          (.plain 413 "length limit exceeded")) ∧
      ∀ (settings : Settings) (databases : Databases) (now : Instant),
        ∃ run, lengthy.options.run settings databases now = .ok run := by
  have hposts : lengthy.Posts (bodyRequest lengthy.fullBody) := (body_fullBody lengthy).posts
  have hlimit : bodyLimit < (bodyRequest lengthy.fullBody).body.length := by
    have hlength := hposts.length_subject_le
    have hsubject : lengthy.subject.toList.length = bodyLimit + 1 := by
      rw [lengthy, String.toList_ofList, List.length_replicate]
    omega
  have hjoinable : lengthy.Joinable := ⟨by simp [lengthy], by simp [lengthy], .inl rfl⟩
  refine ⟨hjoinable, trimmed_lengthy, hposts, ?_, ?_⟩
  · intro s clocks m
    have hinquire := hposts.inquire s bodyLimit
    have hhead : (bodyRequest lengthy.fullBody).method ≠ "HEAD" := by
      rw [hposts.parts.1]
      decide
    rw [if_pos hlimit] at hinquire
    rw [Service.answer_of_refusal hinquire hhead]
    exact ⟨rfl, rfl⟩
  · intro settings databases now
    have hrun := run_options lengthy settings databases now
    rw [if_neg trimmed_lengthy] at hrun
    exact ⟨_, hrun⟩

end Question
end ContactHistory
