import RequirePath.Command.Run
import RequirePath.Proofs.Host

/-! Runs of a command, part by part: a part that succeeds hands its result and its session to the next one. What a command
line gives is read off its words one by one. -/

namespace RequirePath.Command

variable {α β : Type}

namespace Script

variable {act : Script α} {next : α → Script β} {action : Action α} {a : α} {s s' : Session} {h : Host}

theorem bind_of_ok (ha : act.run s = (.ok a, s')) : (act >>= next).run s = (next a).run s' := by
  have hrun : (act >>= next).run s =
      (match act.run s with
        | (.ok a, s') => (next a).run s'
        | (.error e, s') => (.error e, s')) := by
    show (match act.run s with | (r, s') => ExceptT.bindCont next r s') = _
    rcases act.run s with ⟨e | a, s'⟩
    · rfl
    · rfl
  rw [hrun, ha]

theorem attempt_run (action : Action α) (s : Session) :
    (attempt action).run s = (.ok (action s.host).1, { s with host := (action s.host).2 }) := rfl

theorem perform_of_ok (ha : action s.host = (.ok a, h)) : (perform action).run s = (.ok a, { s with host := h }) := by
  rw [perform, bind_of_ok (attempt_run action s), ha]
  rfl

theorem perform_look (f : Host → α) (s : Session) : (perform (Action.look f)).run s = (.ok (f s.host), s) := rfl

theorem performReporting_of_ok (ha : action s.host = (.ok a, h)) :
    (performReporting action).run s = (.ok a, { s with host := h }) := by
  rw [performReporting, bind_of_ok (attempt_run action s), ha]
  rfl

theorem line_run (text : String) (s : Session) :
    (line text).run s = (.ok (), { s with printed := s.printed ++ (text.toList ++ ['\n']) }) := rfl

end Script

/-! ### Words -/

variable {specs : List OptionSpec} {mixed : Bool} {words rest : List String} {word name value : String} {p : Parsed}
variable {m : Manual} {s : Session}

theorem parse_argument (hword : isOption word = false) (hdashes : word ≠ "--") (hrest : parse specs true rest = some p) :
    parse specs true (word :: rest) = some { p with arguments := word :: p.arguments } := by
  rw [parse, if_neg hdashes, hword, hrest]
  rfl

theorem parse_last (hword : isOption word = false) (hdashes : word ≠ "--") :
    parse specs false (word :: rest) = some { arguments := word :: rest } := by
  rw [parse, if_neg hdashes, hword]
  rfl

/-- An option whose value is the next word. -/
theorem parse_option (hword : isOption word = true) (hdashes : word ≠ "--") (hoption : option? specs word = some ⟨[], some name⟩)
    (hrest : parse specs mixed rest = some p) :
    parse specs mixed (word :: value :: rest) = some (p.withOptions [(name, some value)]) := by
  rw [parse, if_neg hdashes, if_pos hword, hoption]
  dsimp only
  rw [hrest]
  rfl

theorem read_of_parse (hp : parse m.options mixed words = some p)
    (hshow : (p.options.find? fun o => o.1 == "--help" || o.1 == "--version") = none) :
    (read m mixed words).run s = (.ok p, s) := by
  rw [read, hp]
  dsimp only
  rw [hshow]
  rfl

end RequirePath.Command
