import ConnectSDK.Foundation.Dictionary
import ConnectSDK.Foundation.Run

/-! # Web app sessions of the webOS TV

How `WebOSTVService` creates sessions for apps, registers them in `_webAppSessions` and
hands them to its clients. Of the sessions only their identity is modelled, and who waits
for them to connect.
-/

namespace ConnectSDK

/-- A session object, by the number of those created before it. -/
structure WebOSWebAppSession where
  number : Nat
deriving DecidableEq

/-- A session that is for an app. -/
structure AppSession where
  appId : String
  webAppSession : WebOSWebAppSession
deriving DecidableEq

/-- A client that joins an app. Its blocks are `subscribed` once the session's socket is open:
a subscription to the app has them then. -/
structure WebAppJoin where
  appId : String
  webAppSession : WebOSWebAppSession
  subscribed : Bool := false

/-- A launch command, with the session that was registered when it was made. -/
structure WebAppLaunch where
  webAppId : String
  webAppSession : Option WebOSWebAppSession

/-- `launches` and `runningAppRequests` have no answer yet. A client in `joins` is handed its
session whenever it connects. `handed` are the sessions that clients were handed since the
last disconnect. -/
structure WebAppLauncher where
  webAppSessions : Option (Dictionary String WebOSWebAppSession) := none
  sessionCount : Nat := 0
  launches : List WebAppLaunch := []
  runningAppRequests : List String := []
  joins : List WebAppJoin := []
  handed : List AppSession := []

/-- The answers carry the index of what they answer, `runningAppReceived` also whether the
running app is the one that is wanted. -/
inductive WebAppEvent where
  | launchWebApp (webAppId : String) (relaunchIfRunning : Bool)
  | launchCompleted (index : Nat)
  | launchFailed (index : Nat)
  | runningAppReceived (index : Nat) (isRunning : Bool)
  | runningAppFailed (index : Nat)
  | joinWebApp (appId : Option String)
  | connectToApp (appId : Option String)
  | joinApp (appId : Option String)
  | joinSubscribed (index : Nat)
  | joinSucceeded (index : Nat)
  | connectToWebApp
  | closeWebApp (appId : String)
  | disconnect

namespace WebAppLauncher

/-- `_webAppSessions[appId]`. -/
def session (launcher : WebAppLauncher) (appId : String) : Option WebOSWebAppSession :=
  launcher.webAppSessions.bind fun webAppSessions => webAppSessions.lookup appId

/-- `_webAppSessions[appId] = webAppSession`, lost without a dictionary. -/
def setSession (launcher : WebAppLauncher) (appId : String)
    (webAppSession : WebOSWebAppSession) : WebAppLauncher :=
  { launcher with
    webAppSessions := launcher.webAppSessions.map fun webAppSessions =>
      webAppSessions.insert appId webAppSession }

/-- The launcher after `createWebAppSessionWithLaunchSession:andService:`, and what that
returns. -/
def createSession (launcher : WebAppLauncher) : WebAppLauncher × WebOSWebAppSession :=
  ({ launcher with sessionCount := launcher.sessionCount + 1 }, ⟨launcher.sessionCount⟩)

/-- `if (!_webAppSessions) _webAppSessions = [NSMutableDictionary new]`. -/
def ensureSessions (launcher : WebAppLauncher) : WebAppLauncher :=
  { launcher with webAppSessions := some (launcher.webAppSessions.getD ∅) }

def webAppSessionForLaunchSession (launcher : WebAppLauncher) (appId : String) :
    WebAppLauncher × WebOSWebAppSession :=
  let launcher := launcher.ensureSessions
  match launcher.session appId with
  | some webAppSession => (launcher, webAppSession)
  | none =>
      let (launcher, webAppSession) := launcher.createSession
      (launcher.setSession appId webAppSession, webAppSession)

/-- `success(webAppSession)`. -/
def hand (launcher : WebAppLauncher) (appId : String) (webAppSession : WebOSWebAppSession) :
    WebAppLauncher :=
  { launcher with handed := launcher.handed ++ [{ appId, webAppSession }] }

/-! ## Launching -/

def sendLaunch (launcher : WebAppLauncher) (webAppId : String) : WebAppLauncher :=
  { launcher with
    launches := launcher.launches ++
      [{ webAppId, webAppSession := launcher.session webAppId }] }

/-- Without an id the launch fails at once. -/
def launchWebApp (launcher : WebAppLauncher) (webAppId : String) (relaunchIfRunning : Bool) :
    WebAppLauncher :=
  if webAppId.isEmpty then launcher
  else if relaunchIfRunning then launcher.sendLaunch webAppId
  else { launcher with runningAppRequests := launcher.runningAppRequests ++ [webAppId] }

/-- `command.callbackComplete` of a launch. -/
def complete (launcher : WebAppLauncher) (launch : WebAppLaunch) : WebAppLauncher :=
  match launch.webAppSession with
  | some webAppSession => launcher.hand launch.webAppId webAppSession
  | none =>
      let (launcher, webAppSession) := launcher.createSession
      (launcher.setSession launch.webAppId webAppSession).hand launch.webAppId webAppSession

def launchCompleted (launcher : WebAppLauncher) (index : Nat) : WebAppLauncher :=
  match launcher.launches[index]? with
  | none => launcher
  | some launch =>
      { launcher with launches := launcher.launches.eraseIdx index }.complete launch

def runningAppReceived (launcher : WebAppLauncher) (index : Nat) (isRunning : Bool) :
    WebAppLauncher :=
  match launcher.runningAppRequests[index]? with
  | none => launcher
  | some webAppId =>
      let launcher := { launcher with
        runningAppRequests := launcher.runningAppRequests.eraseIdx index }
      if isRunning then
        let (launcher, webAppSession) := launcher.webAppSessionForLaunchSession webAppId
        launcher.hand webAppId webAppSession
      else launcher.sendLaunch webAppId

/-! ## Joining -/

/-- The session of an app is asked to connect. The dictionary raises for no id. -/
def join (launcher : WebAppLauncher) (appId : Option String) : Option WebAppLauncher :=
  appId.map fun appId =>
    let (launcher, webAppSession) := launcher.webAppSessionForLaunchSession appId
    { launcher with joins := launcher.joins ++ [{ appId, webAppSession }] }

def joinWebApp (launcher : WebAppLauncher) (appId : Option String) : Option WebAppLauncher :=
  launcher.join appId

def connectToApp (launcher : WebAppLauncher) (appId : Option String) : Option WebAppLauncher :=
  launcher.join appId

def joinApp (launcher : WebAppLauncher) (appId : Option String) : Option WebAppLauncher :=
  launcher.join appId

def joinSubscribed (launcher : WebAppLauncher) (index : Nat) : WebAppLauncher :=
  { launcher with
    joins := launcher.joins.modify index fun joined => { joined with subscribed := true } }

def joinSucceeded (launcher : WebAppLauncher) (index : Nat) : WebAppLauncher :=
  match launcher.joins[index]? with
  | none => launcher
  | some joined => launcher.hand joined.appId joined.webAppSession

/-! ## Disconnecting -/

/-- A session that disconnects forgets the blocks of those who wait for its socket. What it
removes from the subscription is not what the subscription calls. -/
def disconnectFromWebApp (launcher : WebAppLauncher) (webAppSession : WebOSWebAppSession) :
    WebAppLauncher :=
  { launcher with
    joins := launcher.joins.filter fun joined =>
      joined.webAppSession != webAppSession || joined.subscribed }

/-- `closeWebApp:`, up to its command. -/
def closeWebApp (launcher : WebAppLauncher) (appId : String) : WebAppLauncher :=
  match launcher.session appId with
  | none => launcher
  | some webAppSession => launcher.disconnectFromWebApp webAppSession

/-- The sessions that `disconnectWithError:` disconnects. -/
def registeredSessions (launcher : WebAppLauncher) : List WebOSWebAppSession :=
  (launcher.webAppSessions.map Dictionary.values).getD []

def disconnect (launcher : WebAppLauncher) : WebAppLauncher :=
  { launcher.registeredSessions.foldl disconnectFromWebApp launcher with
    webAppSessions := some ∅
    handed := [] }

def step (launcher : WebAppLauncher) : WebAppEvent → Option WebAppLauncher
  | .launchWebApp webAppId relaunchIfRunning =>
      some (launcher.launchWebApp webAppId relaunchIfRunning)
  | .launchCompleted index => some (launcher.launchCompleted index)
  | .launchFailed index =>
      some { launcher with launches := launcher.launches.eraseIdx index }
  | .runningAppReceived index isRunning => some (launcher.runningAppReceived index isRunning)
  | .runningAppFailed index =>
      some { launcher with runningAppRequests := launcher.runningAppRequests.eraseIdx index }
  | .joinWebApp appId => launcher.joinWebApp appId
  | .connectToApp appId => launcher.connectToApp appId
  | .joinApp appId => launcher.joinApp appId
  | .joinSubscribed index => some (launcher.joinSubscribed index)
  | .joinSucceeded index => some (launcher.joinSucceeded index)
  | .connectToWebApp => some launcher.ensureSessions
  | .closeWebApp appId => some (launcher.closeWebApp appId)
  | .disconnect => some launcher.disconnect

end WebAppLauncher

end ConnectSDK
