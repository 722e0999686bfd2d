import Socks5.Client.Exchange
import Socks5.Client.Options
import Socks5.Log.Journal
import Socks5.Settings.Document
import Socks5.Settings.Limits

/-!
# Runs of the client

The client dials a target through a proxy, sends one payload and shows the first answer. What it
does on the way goes to the log. Options prevail over the environment, and that over the settings
file. A run ends with an exit code, and only a successful one, whose code is 0, gives output.
-/

namespace Socks5.Client

/-- How a run ends. -/
inductive Ending where
  | exit (code : Nat)
  | failure (f : Failure)
  | never

/-- What comes of a run. -/
structure Report where
  ending : Ending
  output : Bytes := []
  journal : Log.Journal
  settings : DialerSettings := {}
  trace : Trace := {}

/-! ### The log -/

def channel : String := "socks-dialer-client"

def errorLevel : Int := 40

/-- Ends a run with a last word to the log, unless not even that can be told. -/
def endWith (ending : Ending) (level : Int) (message : Text) (j : Log.Journal) :
    Log.Journal × Ending :=
  match j.write channel level message with
  | (j, .ok ()) => (j, ending)
  | (j, .error f) => (j, .failure (.fault f))

/-- Tells the log notes one after the other, until one of them cannot be told. -/
def tellAll : List Note → Log.Journal → Log.Journal × Except Fault Unit
  | [], j => (j, .ok ())
  | n :: rest, j => match j.write n.channel n.level n.text with
    | (j, .ok ()) => tellAll rest j
    | (j, .error f) => (j, .error f)

def decimal (n : Nat) : String := String.ofList (Nat.toDigits 10 n)

/-! ### Endings -/

/-- The name of the stage of an error. -/
def stageName (e : Error) : String := (e.stage.map (·.name)).getD "None"

def endFailed (f : Failure) (j : Log.Journal) : Log.Journal × Ending :=
  match f with
  | .error e =>
    endWith (.exit 1) errorLevel ("SOCKS5 错误 [" ++ stageName e ++ "]: " ++ e.message) j
  | .fault f =>
    if f.kind = .timedOut then endWith (.exit 1) errorLevel "等待应答超时" j
    else if f.isSystem then endWith (.exit 1) errorLevel ("连接错误: " ++ f.text) j
    else if f.kind = .keyboard then endWith (.exit 130) Log.infoLevel "收到键盘中断信号" j
    else (j, .failure (.fault f))
  | f => (j, .failure f)

def Reply.summary (a : Reply) : Text :=
  "收到 " ++ decimal a.payload.length ++ " 字节" ++
    match a.source with
    | some source => ", 来源 " ++ source.text
    | none => []

namespace Report

/-- The report of a run that failed. -/
def fail (f : Failure) (r : Report) : Report :=
  let (journal, ending) := endFailed f r.journal
  { r with journal, ending }

/-- The report of a run whose exchange has ended. -/
def finish (outcome : Ended Reply) (r : Report) : Report :=
  match outcome with
  | .never => { r with ending := .never }
  | .failure f => r.fail f
  | .value a =>
    match endWith (.exit 0) Log.infoLevel a.summary r.journal with
    | (journal, .exit code) => { r with journal, ending := .exit code, output := a.payload }
    | (journal, ending) => { r with journal, ending }

/-! ### The network -/

/-- What a session leaves behind, in place of what the dial had left. -/
def leaveBehind (s : Session) (t : Trace) : Trace :=
  { t with
    now := s.now
    stream := s.control?
    handle := (s.endpoint?.map Handle.endpoint).or t.handle }

/-- Exchanges the payload over a dialled connection. -/
def exchange (o : Options) (payload : Bytes) (s : Session) (r : Report) : Report :=
  let (outcome, talk) := Client.exchange payload o.target (limitOf o.wait) s
  let (journal, told) := tellAll talk.notes r.journal
  let r := { r with journal, trace := leaveBehind talk.session r.trace }
  match told with
  | .ok () => r.finish outcome
  | .error f => { r with ending := .failure (.fault f) }

/-- The trace of a dial whose end could not be told: it left its stream open. -/
def leaveOpen (t : Trace) : Trace :=
  { t with stream := t.stream.map fun s => { s with closed := false } }

/-- Dials, and exchanges the payload over the connection. -/
def dial (o : Options) (payload : Bytes) (script : Script) (d : Dialer) (r : Report) : Report :=
  let dialled := d.dial script o.network.name o.target (o.timeout.bind dialLimitOf)
  let (journal, told) := tellAll dialled.trace.notes r.journal
  let r := { r with journal, trace := dialled.trace }
  match told with
  -- The stream of a failed dial is closed only after the log was told.
  | .error f => { r with trace := leaveOpen r.trace, ending := .failure (.fault f) }
  | .ok () => match dialled.outcome with
    | .value s => r.exchange o payload s
    | .failure f => r.fail f
    | .never => { r with ending := .never }

/-- Sends the payload and shows the answer, by the settings of the report. -/
def start (o : Options) (payload : Bytes) (script : Script) (r : Report) : Report :=
  let proxy := r.settings.proxy
  let journal := r.journal.addContext
    [("proxy", proxy), ("network", .text o.network.name), ("target", .text o.target)]
  let message := "客户端配置: 代理=" ++ proxy.plain ++ ", 网络=" ++ o.network.name ++ ", 目标=" ++
    o.target
  match journal.write channel Log.infoLevel message with
  | (journal, .error f) => { r with journal, ending := .failure (.fault f) }
  | (journal, .ok ()) =>
    let r := { r with journal }
    match Dialer.ofSettings r.settings with
    | .ok d => r.dial o payload script d
    | .error f => r.fail f

end Report

/-! ### Runs -/

/-- Configures a log by the settings file, and gives the settings of the dialer. -/
def prepare (o : Options) (env : Environment) (j : Log.Journal) :
    Log.Journal × Except Fault DialerSettings :=
  match Settings.load j.files o.config with
  | .error f => (j, .error f)
  | .ok v => match Settings.log env v with
    | .error f => (j, .error f)
    | .ok log =>
      match j.configure (if o.isDebug then { log with level := .text "DEBUG" } else log) with
      | (j, .error f) => (j, .error f)
      | (j, .ok ()) => (j, (Settings.dialer env v).map fun s =>
        if o.proxy.isEmpty then s else { s with proxy := .text o.proxy })

/-- Runs the client, where the network behaves as a script says. -/
def run (o : Options) (env : Environment) (script : Script) (j : Log.Journal) : Report :=
  match prepare o env j with
  | (journal, .error f) => { journal, ending := .failure (.fault f) }
  | (journal, .ok settings) => match o.payload with
    | .ok payload => Report.start o payload script { journal, settings, ending := .never }
    | .error f =>
      let (journal, ending) := endWith (.exit 2) errorLevel
        ("--data 不是有效的十六进制: " ++ f.text) journal
      { journal, ending, settings }

end Socks5.Client
