import RequirePath.Proofs.Cache.Prediction
import RequirePath.Proofs.Command.Script
import RequirePath.Proofs.Config.Load
import RequirePath.Proofs.Path.Climb
import RequirePath.Proofs.Pipeline.Callback
import RequirePath.Proofs.Resolver.Locality
import RequirePath.Proofs.Resolver.Texts

/-! The command line and the step in the host's pipeline answer as a resolver does. Each reads the configuration and loads
the cache by itself, and only the logging differs between them; so each comes to the same resolver on the same files. -/

namespace RequirePath

open FileSystem
open Pathname (isAbsolute isText ofText)

variable {c : Config} {l : Loaded} {h h' h₁ h₂ h₃ : Host} {root : Option String} {specifier directory : String} {n : Log.Level}
variable {requester : Pathname} {found : Option (Pathname × String)} {answer : Option String}

/-! ### The same load on another machine -/

namespace Cache

/-- A load that reads the cache file gives the same on every machine with the same files. -/
theorem loadOrRebuild_of_read (hc : h.LogsToConsole) (ha : loadOrRebuild c h = (.ok l, h')) (hread : l.rebuilt = false)
    (hc₁ : h₁.LogsToConsole) (hfiles : h₁.files = h.files) (hcwd : h₁.workingDirectory = h.workingDirectory) :
    ∃ h₂, loadOrRebuild c h₁ = (.ok l, h₂) ∧ h₂.files = h.files ∧ h₂.workingDirectory = h.workingDirectory := by
  rcases loadOrRebuild_ok_cases hc ha with ⟨record, hcurrent, rfl, -⟩ | ⟨-, usable, h₂, h₃, hensure, hpause, hrebuild⟩
  · rcases loadOrRebuild_cases hc ha with ⟨-, e, he⟩ | ⟨hg, hl, -⟩
    · cases he
    · have husable : Usable c h₁ := by
        rw [Usable, hfiles, hcwd]
        exact hcurrent.usable
      have hfresh : ¬timeAt h₁ c.cacheFilePath < timeAt h₁ c.gemfileLockPath := by
        rw [timeAt, timeAt, hfiles, hcwd]
        exact hcurrent.fresh
      have hholds : Holds c h₁ record := by
        rw [Holds, hfiles, hcwd]
        exact hcurrent.holds
      obtain ⟨h₂, hload, hcontinues, hidles⟩ := loadOrRebuild_of_holds hc₁ (by rwa [IsManifest, hfiles, hcwd])
        (by rwa [IsManifest, hfiles, hcwd]) husable hfresh hholds
      exact ⟨h₂, hload, hidles.1.trans hfiles, hcontinues.workingDirectory.trans hcwd⟩
  · rw [(renews_of_rebuild hc hensure hpause hrebuild).1] at hread
    cases hread

end Cache

/-! ### The command line -/

namespace Command

open Script

/-- The words that give a project root. -/
def rootWords : Option String → List String
  | none => []
  | some r => ["--project-root", r]

/-- A project root that is given leads neither to a file nor to what may not be read. -/
def RootFits (root : Option String) (h : Host) : Prop :=
  ∀ r, root = some r → Pathname.holdsNul (ofText r) = false ∧
    ∀ n, h.files.status h.workingDirectory (ofText r) = .ok n → n.isFile = false ∧ n.readable = true

theorem checkRoot_run {s : Session} (hroot : RootFits root s.host) : (checkRoot root).run s = (.ok (), s) := by
  cases root with
  | none => rfl
  | some r =>
      obtain ⟨hnul, hfits⟩ := hroot r rfl
      unfold checkRoot
      dsimp only
      rw [hnul, if_neg Bool.false_ne_true, bind_of_ok (perform_look _ s)]
      cases hs : s.host.files.status s.host.workingDirectory (ofText r) with
      | ok n =>
          obtain ⟨hfile, hreadable⟩ := hfits n hs
          simp only [hfile, hreadable]
          rfl
      | error e => rfl

theorem setUp_of_levelOf (hlevel : Log.levelOf c.logLevel = .ok n) (hpath : c.logPath = none) (h : Host) :
    Log.setUp c.logPath (some c.logLevel) h = (.ok (), { h with threshold := n, sinks := [.console] }) := by
  rw [hpath, Log.setUp]
  have hlook : Action.lookOrFail (fun _ => Log.levelOf ((some c.logLevel).getD "")) h = (.ok n, h) := congrArg (·, h) hlevel
  rw [Action.bind_of_ok hlook]
  rfl

/-- What the program reads off its words: the root, if one is given, and the words from the name of the command on. -/
theorem parse_program {name : String} (words : List String) (root : Option String) (hname : isOption name = false)
    (hdashes : name ≠ "--") :
    ∃ p, parse programManual.options false (rootWords root ++ name :: words) = some p ∧ p.arguments = name :: words ∧
      p.value? "--project-root" = root ∧ settingsOf p = [] ∧
      (p.options.find? fun o => o.1 == "--help" || o.1 == "--version") = none := by
  have hlast : parse programManual.options false (name :: words) = some { arguments := name :: words } :=
    parse_last hname hdashes
  cases root with
  | none => exact ⟨_, hlast, rfl, rfl, rfl, rfl⟩
  | some r =>
      have hoption : option? programManual.options "--project-root" = some ⟨[], some "--project-root"⟩ := rfl
      exact ⟨_, parse_option (by decide) (by decide) hoption hlast, rfl, rfl, rfl, rfl⟩

/-- The configuration that the program begins with is the one that its project root gives; its log goes to the console. -/
theorem begin_run {p : Parsed} {s : Session} (hvalue : p.value? "--project-root" = root) (hsettings : settingsOf p = [])
    (hconfig : Config.load root none [] s.host = (.ok c, h₁)) (hlevel : Log.levelOf c.logLevel = .ok n)
    (hpath : c.logPath = none) :
    (begin p).run s = (.ok c, { s with host := { h₁ with threshold := n, sinks := [.console] } }) := by
  have hload : (performReporting (Config.load root none [])).run s = (.ok c, { s with host := h₁ }) :=
    performReporting_of_ok hconfig
  have hlog : (perform (Log.setUp c.logPath (some c.logLevel))).run { s with host := h₁ } =
      (.ok (), { s with host := { h₁ with threshold := n, sinks := [.console] } }) :=
    perform_of_ok (setUp_of_levelOf hlevel hpath h₁)
  rw [begin, hvalue, hsettings]
  rw [bind_of_ok hload, bind_of_ok hlog]
  rfl

/-- The program comes to a command with the configuration, and with a log that goes to the console. -/
theorem program_run {name : String} {words : List String} {command : Subcommand} {s : Session}
    (hname : isOption name = false) (hdashes : name ≠ "--") (hcommand : command? name = some command)
    (hroot : RootFits root s.host) (hconfig : Config.load root none [] s.host = (.ok c, h₁))
    (hlevel : Log.levelOf c.logLevel = .ok n) (hpath : c.logPath = none) :
    (program (rootWords root ++ name :: words)).run s =
      (command c words).run { s with host := { h₁ with threshold := n, sinks := [.console] } } := by
  obtain ⟨p, hparse, harguments, hvalue, hsettings, hshow⟩ := parse_program words root hname hdashes
  have hread : (read programManual false (rootWords root ++ name :: words)).run s = (.ok p, s) := read_of_parse hparse hshow
  have hfind : (find programManual command? name words).run s = (.ok command, s) := by
    rw [find, hcommand]
    rfl
  rw [program, bind_of_ok hread, hvalue, bind_of_ok (checkRoot_run hroot), harguments]
  dsimp only
  rw [bind_of_ok hfind, bind_of_ok (begin_run hvalue hsettings hconfig hlevel hpath)]

/-! ### The command that resolves -/

theorem isOption_of_head? {word : String} (hword : word.toList.head? ≠ some '-') : isOption word = false ∧ word ≠ "--" := by
  constructor
  · unfold isOption
    split
    · next heq =>
        rw [heq] at hword
        exact absurd rfl hword
    · rfl
  · rintro rfl
    exact hword (by decide)

/-- Up to its answer the command acts as the resolver of the cache does. -/
theorem resolve_run {s : Session} (hspecifier : specifier.toList.head? ≠ some '-') (hdirectory : directory ≠ "")
    (hload : Cache.loadOrRebuild c s.host = (.ok l, h₁))
    (hresolve : (⟨l, c, Tier.standard⟩ : Resolver).resolve
      (some (LexicalPath.absolute h₁.workingPath (LexicalPath.ofText directory)).spelling) (ofText specifier) h₁ =
        (.ok found, h₂)) :
    (resolve c [specifier, "--from", directory]).run s =
      (match found with
        | none => (do
            markup ("[yellow]Not found:[/yellow] " ++ Markup.escapeText specifier)
            exit 1 : Script Unit)
        | some (path, _) => line (Pathname.display path)).run { s with host := h₂ } := by
  obtain ⟨hoption, hdashes⟩ := isOption_of_head? hspecifier
  have hfrom : option? resolveManual.options "--from" = some ⟨[], some "--from"⟩ := rfl
  have hnothing : parse resolveManual.options true [] = some {} := rfl
  have hparse : parse resolveManual.options true [specifier, "--from", directory] =
      some { options := [("--from", some directory)], arguments := [specifier] } :=
    parse_argument hoption hdashes (parse_option (by decide) (by decide) hfrom hnothing)
  have hread : (read resolveManual true [specifier, "--from", directory]).run s =
      (.ok { options := [("--from", some directory)], arguments := [specifier] }, s) := read_of_parse hparse rfl
  have hload : (loadResolver c).run s = (.ok ⟨l, c, Tier.standard⟩, { s with host := h₁ }) := by
    rw [loadResolver, bind_of_ok (performReporting_of_ok hload)]
    rfl
  have hvalue : ({ options := [("--from", some directory)], arguments := [specifier] } : Parsed).value? "--from" =
      some directory := rfl
  have hanswer := perform_of_ok (s := { s with host := h₁ }) hresolve
  rw [resolve, bind_of_ok hread]
  dsimp only
  rw [bind_of_ok hload, bind_of_ok (perform_look _ _), hvalue]
  split
  · next hempty => exact absurd (Option.some.inj hempty) hdirectory
  · next hnone => cases hnone
  · next d _ hd =>
      obtain rfl := Option.some.inj hd
      rw [bind_of_ok hanswer]
      rcases found with - | ⟨path, tier⟩
      · rfl
      · rfl

/-- The end of a run that answers: it prints a path on a line, or has the code for none. -/
def Result.Tells (result : Result) : Option String → Prop
  | some path => result.code = 0 ∧ result.printed = path.toList ++ ['\n']
  | none => result.code = 1

theorem run_tells (hspecifier : specifier.toList.head? ≠ some '-') (hdirectory : directory ≠ "") (hroot : RootFits root h)
    (hconfig : Config.load root none [] h = (.ok c, h₁)) (hlevel : Log.levelOf c.logLevel = .ok n) (hpath : c.logPath = none)
    (hload : Cache.loadOrRebuild c { h₁ with threshold := n, sinks := [.console] } = (.ok l, h₂))
    (hresolve : (⟨l, c, Tier.standard⟩ : Resolver).resolve
      (some (LexicalPath.absolute h₂.workingPath (LexicalPath.ofText directory)).spelling) (ofText specifier) h₂ =
        (.ok found, h₃)) (stdin : String) :
    (run (rootWords root ++ ["resolve", specifier, "--from", directory]) stdin h).Tells
      (found.map fun answer => Pathname.display answer.1) := by
  let begun : Session := { host := { h₁ with threshold := n, sinks := [.console] }, typed := typedLines stdin }
  have hprogram : (program (rootWords root ++ ["resolve", specifier, "--from", directory])).run
      { host := h, typed := typedLines stdin } = (resolve c [specifier, "--from", directory]).run begun :=
    program_run (by decide) (by decide) rfl hroot hconfig hlevel hpath
  rw [resolve_run (s := begun) hspecifier hdirectory hload hresolve] at hprogram
  unfold run
  rcases found with - | ⟨path, tier⟩
  · -- the message itself may fail; the code is the same
    rw [hprogram]
    dsimp only
    unfold markup
    cases Markup.print ("[yellow]Not found:[/yellow] " ++ Markup.escapeText specifier) <;> rfl
  · rw [hprogram]
    dsimp only
    rw [line_run]
    exact ⟨rfl, rfl⟩

end Command

/-! ### The step -/

/-- The outcome of a request with an answer. -/
def Outcome.ofAnswer (request : Fields) : Option String → Outcome
  | some path => .rewritten (.value (.object (Fields.set "path" (.text path) request)))
  | none => .declined

theorem Plugin.handle_of_texts {p : Plugin} {r : Resolver} {request : Fields} (hp : p.resolver = some r)
    (hrequester : Fields.get? "path" request = some (.text directory))
    (hspecifier : Fields.get? "request" request = some (.text specifier))
    (hresolve : (r.resolve (some (ofText directory)) (ofText specifier) h).1 = .ok found) :
    (p.handle request h).1 = .ok (Outcome.ofAnswer request (found.map fun answer => Pathname.display answer.1)) := by
  rw [handle_of_started hp, resolve_of_texts hrequester hspecifier]
  unfold pathOf
  rw [hresolve]
  rcases found with - | ⟨path, tier⟩
  · rfl
  · rfl

/-- A step that is started has the resolver of the load that starts it. -/
theorem Plugin.start_of_load {p : Plugin} (hp : p.resolver = none) (ha : Cache.loadOrRebuild c h = (.ok l, h')) :
    ∃ p' s' h'', p.start ⟨c, none⟩ h = ((.ok ⟨l, c, Tier.standard⟩, p', s'), h'') ∧
      p'.resolver = some ⟨l, c, Tier.standard⟩ := by
  have hload : (⟨c, none⟩ : Store).load h = ((.ok l, ⟨c, some l⟩), h') := by
    simp only [Store.load, Store.keeping, ha]
  rw [start, hp, hload]
  exact ⟨_, _, _, rfl, rfl⟩

/-! ### All of them -/

/-- If the configuration of a project root loads and the cache of it is read, the command line and a step that is started
with that configuration answer as the resolver of the cache does: the command prints its path or ends with the code for
none, and the step rewrites the request to its path or declines. -/
theorem front_ends_agree (hc : h.LogsToConsole) (hroot : Command.RootFits root h)
    (hconfig : Config.load root none [] h = (.ok c, h₁)) (hlevel : Log.levelOf c.logLevel = .ok n) (hpath : c.logPath = none)
    (hload : Cache.loadOrRebuild c h₁ = (.ok l, h₂)) (hread : l.rebuilt = false)
    (hdirectory : isAbsolute (ofText directory) = true) (hspecifier : specifier.toList.head? ≠ some '-')
    (hresolve : (⟨l, c, Tier.standard⟩ : Resolver).resolve
      (some (LexicalPath.absolute h.workingPath (LexicalPath.ofText directory)).spelling) (ofText specifier) h₂ =
        (.ok found, h₃)) :
    ∃ (requester : String) (answer : Option String),
      ofText requester = (LexicalPath.absolute h.workingPath (LexicalPath.ofText directory)).spelling ∧
      found.map Prod.fst = answer.map ofText ∧
      (∀ stdin, (Command.run (Command.rootWords root ++ ["resolve", specifier, "--from", directory]) stdin h).Tells answer) ∧
      ∀ (p : Plugin) (start : Host), p.resolver = none → start.LogsToConsole → start.files = h.files →
        start.workingDirectory = h.workingDirectory →
        ∃ r p' s' h', p.start ⟨c, none⟩ start = ((.ok r, p', s'), h') ∧
          ∀ request later, later.files = h.files → later.workingDirectory = h.workingDirectory →
            Fields.get? "path" request = some (.text requester) → Fields.get? "request" request = some (.text specifier) →
            (p'.handle request later).1 = .ok (Outcome.ofAnswer request answer) := by
  obtain ⟨hcontinues, hfiles₁, -⟩ := (Config.within_load Host.frame_idles root none []).of_eq hc hconfig
  have hc₁ := hcontinues.logsToConsole hc
  have hagain : ∀ start : Host, start.LogsToConsole → start.files = h.files → start.workingDirectory = h.workingDirectory →
      ∃ h', Cache.loadOrRebuild c start = (.ok l, h') ∧ h'.files = h.files ∧ h'.workingDirectory = h.workingDirectory := by
    intro start hstart hfiles hcwd
    obtain ⟨h', hload', hfiles', hcwd'⟩ := Cache.loadOrRebuild_of_read hc₁ hload hread hstart (hfiles.trans hfiles₁.symm)
      (hcwd.trans hcontinues.workingDirectory.symm)
    exact ⟨h', hload', hfiles'.trans hfiles₁, hcwd'.trans hcontinues.workingDirectory⟩
  obtain ⟨h₂', hload₂, hfiles₂, hcwd₂⟩ := hagain h₁ hc₁ hfiles₁ hcontinues.workingDirectory
  obtain rfl : h₂' = h₂ := (Prod.mk.inj (hload₂.symm.trans hload)).2
  have hresolves : ∀ later : Host, later.files = h.files → later.workingDirectory = h.workingDirectory →
      ((⟨l, c, Tier.standard⟩ : Resolver).resolve
        (some (LexicalPath.absolute h.workingPath (LexicalPath.ofText directory)).spelling) (ofText specifier) later).1 =
          .ok found := by
    intro later hfiles hcwd
    rw [Resolver.resolve_fst_congr _ _ _ (hfiles.trans hfiles₂.symm) (hcwd.trans hcwd₂.symm), hresolve]
  have htext : isText (LexicalPath.absolute h.workingPath (LexicalPath.ofText directory)).spelling = true :=
    Pathname.isText_absolute (Pathname.isText_encode _) (Pathname.isAbsolute_parse hdirectory)
  obtain ⟨requester, hrequester⟩ := Pathname.isText_iff.1 htext
  refine ⟨requester, found.map fun answer => Pathname.display answer.1, hrequester, ?_, ?_, ?_⟩
  · -- the path that is found is a text, since the load paths and the request are
    obtain ⟨workingDirectory, settings, hsettings⟩ := Config.load_ok hconfig
    rcases found with - | ⟨path, tier⟩
    · rfl
    · have hfound := Resolver.isText_of_resolve (Config.dottedSuffixes_of_ofSettings hsettings)
        (Config.textSuffixes_of_ofSettings hsettings) (fun _ => Cache.isText_of_loadOrRebuild hc₁ hload)
        (fun directory hd => Option.some.inj hd ▸ htext) (Pathname.isText_encode _) hresolve
      exact congrArg some (Pathname.ofText_display hfound).symm
  · intro stdin
    obtain ⟨h', hload', hfiles', hcwd'⟩ := hagain { h₁ with threshold := n, sinks := [.console] }
      (fun _ => List.mem_singleton.1) hfiles₁ hcontinues.workingDirectory
    have hsame := hresolves h' hfiles' hcwd'
    have hworking : h.workingPath = h'.workingPath := by rw [Host.workingPath, Host.workingPath, hcwd']
    rw [hworking] at hsame
    have hne : directory ≠ "" := by
      rintro rfl
      cases hdirectory
    exact Command.run_tells hspecifier hne hroot hconfig hlevel hpath hload' (Prod.ext hsame rfl) stdin
  · intro p start hp hstart hfiles hcwd
    obtain ⟨h', hload', -, -⟩ := hagain start hstart hfiles hcwd
    obtain ⟨p', s', h'', hstarted, hp'⟩ := Plugin.start_of_load hp hload'
    refine ⟨_, p', s', h'', hstarted, fun request later hfiles hcwd hpath hspecifier => ?_⟩
    have hsame := hresolves later hfiles hcwd
    rw [← hrequester] at hsame
    exact Plugin.handle_of_texts hp' hpath hspecifier hsame

/-- With the record of the sample project in its cache file, the command prints the module that the cache tells, and a
step that is started rewrites to it. -/
theorem front_ends_agree_sample :
    let request : Fields := [("path", .text "/app"), ("request", .text "x.rb")]
    (Command.run ["--project-root", "/app", "resolve", "x.rb", "--from", "/app"] "" Store.recordedHost).Tells
        (some "/lib/x.rb") ∧
      ∃ r p' s' h', (Plugin.mk "resolve" "resolved" none).start ⟨Store.sampleConfig, none⟩ Store.recordedHost =
          ((.ok r, p', s'), h') ∧
        (p'.handle request Store.recordedHost).1 = .ok (Outcome.ofAnswer request (some "/lib/x.rb")) := by
  intro request
  have hconsole : Store.recordedHost.LogsToConsole := fun _ hs => absurd hs List.not_mem_nil
  have hroot : Command.RootFits (some "/app") Store.recordedHost := by
    rintro r ⟨⟩
    have hstatus : (Store.recordedHost.files.status Store.recordedHost.workingDirectory (ofText "/app")).toOption =
      some (Node.newDirectory ⟨10, 0⟩) := by decide +kernel
    refine ⟨by decide, fun n hn => ?_⟩
    rw [hn] at hstatus
    obtain rfl := Option.some.inj hstatus
    exact ⟨rfl, by decide⟩
  have hconfig : Config.load (some "/app") none [] Store.recordedHost = (.ok Store.sampleConfig, Store.recordedHost) := rfl
  have hlevel : Log.levelOf Store.sampleConfig.logLevel = .ok .warning := rfl
  have hload : (Cache.loadOrRebuild Store.sampleConfig Store.recordedHost).1.toOption =
      some ⟨[ofText "/lib"], [ofText "/lib/x.rb"], false⟩ := by decide +kernel
  have hresolve : ((⟨⟨[ofText "/lib"], [ofText "/lib/x.rb"], false⟩, Store.sampleConfig, Tier.standard⟩ : Resolver).resolve
      (some (LexicalPath.absolute Store.recordedHost.workingPath (LexicalPath.ofText "/app")).spelling) (ofText "x.rb")
      (Cache.loadOrRebuild Store.sampleConfig Store.recordedHost).2).1.toOption =
        some (some (ofText "/lib/x.rb", "index")) := by decide +kernel
  rcases hloaded : Cache.loadOrRebuild Store.sampleConfig Store.recordedHost with ⟨result, h₂⟩
  rw [hloaded] at hload hresolve
  obtain rfl := Cache.eq_ok_of_toOption hload
  obtain ⟨requester, answer, hrequester, hanswer, htells, hplugin⟩ := front_ends_agree hconsole hroot hconfig hlevel rfl
    hloaded rfl (show isAbsolute (ofText "/app") = true by decide) (show "x.rb".toList.head? ≠ some '-' by decide)
    (Prod.ext (Cache.eq_ok_of_toOption hresolve) rfl)
  obtain rfl : requester = "/app" := by
    rw [← Pathname.display_ofText requester, hrequester]
    decide +kernel
  obtain rfl : answer = some "/lib/x.rb" := by
    rcases answer with - | answer
    · cases hanswer
    · have htext : ofText answer = ofText "/lib/x.rb" := (Option.some.inj hanswer).symm
      rw [← Pathname.display_ofText answer, htext, Pathname.display_ofText]
  obtain ⟨r, p', s', h', hstart, hhandle⟩ := hplugin ⟨"resolve", "resolved", none⟩ Store.recordedHost rfl hconsole rfl rfl
  exact ⟨htells "", r, p', s', h', hstart, hhandle request Store.recordedHost rfl rfl rfl rfl⟩

/-- The sample project with its record, in a directory that may not be read. -/
def barredHost : Host :=
  { Store.recordedHost with
    files := Store.recordedHost.files.put [ofText "app"] { Node.newDirectory ⟨10, 0⟩ with mode := 0o311 } }

/-- A project root that may not be read is refused on the command line, though its configuration loads, its cache is read
and the resolver finds the module. -/
theorem front_ends_differ :
    Config.load (some "/app") none [] barredHost = (.ok Store.sampleConfig, barredHost) ∧
      Log.levelOf Store.sampleConfig.logLevel = .ok .warning ∧ Store.sampleConfig.logPath = none ∧
      ∃ l h₂ h₃, Cache.loadOrRebuild Store.sampleConfig barredHost = (.ok l, h₂) ∧ l.rebuilt = false ∧
        (⟨l, Store.sampleConfig, Tier.standard⟩ : Resolver).resolve (some (ofText "/app")) (ofText "x.rb") h₂ =
          (.ok (some (ofText "/lib/x.rb", "index")), h₃) ∧
        (Command.run ["--project-root", "/app", "resolve", "x.rb", "--from", "/app"] "" barredHost).code = 2 := by
  have hload : (Cache.loadOrRebuild Store.sampleConfig barredHost).1.toOption =
      some ⟨[ofText "/lib"], [ofText "/lib/x.rb"], false⟩ := by decide +kernel
  have hresolve : ((⟨⟨[ofText "/lib"], [ofText "/lib/x.rb"], false⟩, Store.sampleConfig, Tier.standard⟩ : Resolver).resolve
      (some (ofText "/app")) (ofText "x.rb") (Cache.loadOrRebuild Store.sampleConfig barredHost).2).1.toOption =
        some (some (ofText "/lib/x.rb", "index")) := by decide +kernel
  have hcode : (Command.run ["--project-root", "/app", "resolve", "x.rb", "--from", "/app"] "" barredHost).code = 2 := by
    decide +kernel
  rcases hloaded : Cache.loadOrRebuild Store.sampleConfig barredHost with ⟨result, h₂⟩
  rw [hloaded] at hload hresolve
  obtain rfl := Cache.eq_ok_of_toOption hload
  exact ⟨rfl, rfl, rfl, _, h₂, _, rfl, rfl, Prod.ext (Cache.eq_ok_of_toOption hresolve) rfl, hcode⟩

end RequirePath
