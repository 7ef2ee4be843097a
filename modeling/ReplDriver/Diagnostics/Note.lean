import ReplDriver.Failure

/-!
# Diagnostic notes

What the driver does is noted as it happens. A note becomes text only where diagnostics are on.
-/

namespace ReplDriver

/-- A note, by what it tells. -/
inductive Note where
  | starting (session program : Text)
  | exited (session : Text)
  | interrupting (session : Text)
  | closed (session : Text)
  | removing (session : Text)
  | sent (text : Text)
  | received (text : Text)
  | cacheHit (probe : Text)
  | loading (path : Text)
  | completionFailed (f : Failure)
  | message (op session id : Json)
  | sessionCreated (id : Text)
  | sessionClosing (id : Json)
  | requestFailed (op : Json) (f : Failure)
  | response (members : Json)
  | clientConnected (peer : Text)
  | clientFailed (peer : Text) (f : Failure)
  | clientGone (peer : Text)
  | closeFailed (f : Failure)
  | remark (label text : Text)

namespace Note

/-- What the label before a note says: notes of the server have a label of their own. -/
def label : Note → Text
  | message _ _ _ | sessionCreated _ | sessionClosing _ | requestFailed _ _ | response _
  | clientConnected _ | clientFailed _ _ | clientGone _ | closeFailed _ => "nREPL"
  | remark label _ => label
  | _ => "jsrepl"

/-- The text of a note. -/
def text : Note → Text
  | starting session program => "starting session " ++ session.quoted ++ ": " ++ program
  | exited session => "session " ++ session.quoted ++ " process exited"
  | interrupting session => "interrupting session " ++ session.quoted
  | closed session => "session " ++ session.quoted ++ " closed"
  | removing session => "removing exited session " ++ session.quoted
  | sent s => "send " ++ s.quoted
  | received s => "recv " ++ s.quoted
  | cacheHit probe => "completion cache hit for " ++ probe.quoted
  | loading path => "loading " ++ path
  | completionFailed f => "completion failed: " ++ f.message
  | message op session id =>
    "Message: op=" ++ op.plain ++ ", session=" ++ session.plain ++ ", id=" ++ id.plain
  | sessionCreated id => "Created new session: " ++ id
  | sessionClosing id => "Closing session: " ++ id.plain
  | requestFailed op f => op.plain ++ " failed: " ++ f.message
  | response members => "Returning response: " ++ members.display
  | clientConnected peer => "Client connected from " ++ peer
  | clientFailed peer f => "Error handling client " ++ peer ++ ": " ++ f.message
  | clientGone peer => "Client disconnected from " ++ peer
  | closeFailed f => "close failed: " ++ f.message
  | remark _ s => s

/-- The line in which a note is shown. -/
def line (n : Note) : Text := "[" ++ n.label ++ "] " ++ n.text ++ "\n"

end Note

end ReplDriver
