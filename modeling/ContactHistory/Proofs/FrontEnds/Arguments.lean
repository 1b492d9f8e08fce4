import ContactHistory.Proofs.FrontEnds.Question

namespace ContactHistory

open Text

namespace CommandLine

/-- An argument with a value is read as the name and the value; the first equals sign ends the
name. -/
theorem Argument.read_argument {name : String} (value : String) (h : '=' ∉ name.toList) :
    Argument.read (Question.argument name value) = .named name (some value) := by
  have hlist : (Question.argument name value).toList =
      '-' :: '-' :: (name.toList ++ '=' :: value.toList) := by
    simp [Question.argument]
  have htake : (name.toList ++ '=' :: value.toList).takeWhile (fun c => decide (c ≠ '=')) =
      name.toList := takeWhile_ne_append h value.toList
  have hdrop : (name.toList ++ '=' :: value.toList).drop name.toList.length = '=' :: value.toList :=
    List.drop_left
  have hlong : Argument.ofLong (name.toList ++ '=' :: value.toList) = .named name (some value) := by
    unfold Argument.ofLong
    simp only [htake, hdrop, String.ofList_toList]
  unfold Argument.read
  rw [hlist]
  cases hcs : name.toList ++ '=' :: value.toList with
  | nil => simp at hcs
  | cons c cs =>
    rw [hcs] at hlong
    exact hlong

namespace Switch

variable {δ : Type} {switches : List (Switch δ)} {name : String} {s : Switch δ}
  {placeholder : String} {set : δ → String → Option δ}

/-- An argument with a value changes the draft as its switch says, and reading goes on. -/
theorem readAll_argument (hname : '=' ∉ name.toList)
    (hfind : switches.find? (fun s => s.name = name) = some s)
    (heffect : s.effect = .take placeholder set) {d d' : δ} {value : String}
    (hset : set d value = some d') (rest : List String) :
    readAll switches (Question.argument name value :: rest) d = readAll switches rest d' := by
  have hread := Argument.read_argument value hname
  have hgive : s.give (some value) d = .ok (some d') := by
    unfold give
    rw [heffect]
    change some <$> changed (set d value) = _
    rw [hset]
    rfl
  rw [readAll, hread, if_neg (by simp)]
  simp only [find?, hfind, Option.map_some, hgive]

/-- The values of a switch that may be given again and again are put behind those that the draft
has. -/
theorem readAll_collected (get : δ → List String) (put : δ → List String → δ)
    (hget : ∀ d xs, get (put d xs) = xs) (hput : ∀ d xs ys, put (put d xs) ys = put d ys)
    (hsame : ∀ d, put d (get d) = d) (hname : '=' ∉ name.toList)
    (hfind : switches.find? (fun s => s.name = name) = some s)
    (heffect : s.effect = .take placeholder fun d v => some (put d (get d ++ [v])))
    (values rest : List String) (d : δ) :
    readAll switches (values.map (Question.argument name) ++ rest) d =
      readAll switches rest (put d (get d ++ values)) := by
  -- The draft changes with each value, so the induction is over all drafts.
  induction values generalizing d with
  | nil =>
    rw [List.append_nil, hsame]
    rfl
  | cons v vs ih =>
    rw [List.map_cons, List.cons_append, readAll_argument hname hfind heffect rfl, ih, hget, hput,
      List.append_assoc, List.singleton_append]

end Switch

theorem Command.read_arguments (q : Question) :
    Command.read q.arguments = .ok (.aggregate q.options) := by
  have hsubject (rest : List String) :
      Switch.readAll AggregateOptions.switches (Question.argument "subject" q.subject :: rest) {} =
        Switch.readAll AggregateOptions.switches rest ⟨some q.subject, [], [], false⟩ :=
    Switch.readAll_argument (by decide) rfl rfl rfl rest
  have hsources (rest : List String) (d : AggregateOptions.Draft) :
      Switch.readAll AggregateOptions.switches
          (q.sources.map (Question.argument "source") ++ rest) d =
        Switch.readAll AggregateOptions.switches rest
          { d with sources := d.sources ++ q.sources } :=
    Switch.readAll_collected AggregateOptions.Draft.sources (fun d xs => { d with sources := xs })
      (fun _ _ => rfl) (fun _ _ _ => rfl) (fun _ => rfl) (by decide) rfl rfl q.sources rest d
  have haddresses (rest : List String) (d : AggregateOptions.Draft) :
      Switch.readAll AggregateOptions.switches
          (q.addresses.map (Question.argument "address") ++ rest) d =
        Switch.readAll AggregateOptions.switches rest
          { d with addresses := d.addresses ++ q.addresses } :=
    Switch.readAll_collected AggregateOptions.Draft.addresses
      (fun d xs => { d with addresses := xs }) (fun _ _ => rfl) (fun _ _ _ => rfl) (fun _ => rfl)
      (by decide) rfl rfl q.addresses rest d
  have hread : AggregateOptions.read (Question.argument "subject" q.subject ::
      (q.sources.map (Question.argument "source") ++
        q.addresses.map (Question.argument "address"))) = .ok q.options := by
    have hlast := haddresses []
    simp only [List.append_nil] at hlast
    unfold AggregateOptions.read
    rw [hsubject, hsources, hlast]
    rfl
  change Command.aggregate <$> AggregateOptions.read _ = _
  rw [hread]
  rfl

end CommandLine
end ContactHistory
