import SessionRecorder.Text.Lines
import SessionRecorder.Value.Display
/-!
# The listener

The program that a page runs so that a recorder hears of its events: it finds a locator for what an
event happened to and hands both over.

## Main definitions

* `Page.domEvents` — the events the page listens to.
* `Page.listener` — the program.
-/

namespace SessionRecorder.Page

/-- The events the page listens to. -/
def domEvents : List String :=
  ["mousedown", "mousemove", "mouseup", "dblclick", "wheel", "keydown", "keyup"]

/-- The lines of the program before the one that names the events. -/
def listenerBefore : List String :=
  ["",
   "(() => \x7b",
   "  if (window !== window.top || window.__codegenInstalled) return;",
   "  window.__codegenInstalled = true;",
   "",
   "  const locatorOf = (el) => \x7b",
   "    if (!el || el.nodeType !== Node.ELEMENT_NODE) return \"\";",
   "    if (el.id) return `#$\x7bel.id\x7d`;",
   "    for (const attr of [\"data-testid\", \"data-test\", \"name\", \"aria-label\"]) \x7b",
   "      if (el.hasAttribute(attr)) \x7b",
   "        return `$\x7bel.tagName.toLowerCase()\x7d[$\x7battr\x7d=\"$\x7bel.getAttribute(attr)\x7d\"]`;",
   "      \x7d",
   "    \x7d",
   "    const path = [];",
   "    let current = el;",
   "    while (current && current.nodeType === Node.ELEMENT_NODE) \x7b",
   "      if (current.id) \x7b",
   "        path.unshift(`#$\x7bcurrent.id\x7d`);",
   "        break;",
   "      \x7d",
   "      let selector = current.nodeName.toLowerCase();",
   "      const parent = current.parentNode;",
   "      if (parent && parent.children) \x7b",
   "        const siblings = Array.from(parent.children).filter((e) => e.nodeName === current.nodeName);",
   "        if (siblings.length > 1) selector += `:nth-of-type($\x7bsiblings.indexOf(current) + 1\x7d)`;",
   "      \x7d",
   "      path.unshift(selector);",
   "      current = parent;",
   "    \x7d",
   "    return path.join(\" > \");",
   "  \x7d;",
   "  window.__codegenLocatorOf = locatorOf;",
   "",
   "  const send = (e) => \x7b",
   "    if (typeof window.__codegenEvent !== \"function\") return;",
   "    if (e.type === \"mousemove\" && !e.buttons) return;",
   "    window.__codegenEvent(\x7b",
   "      type: e.type,",
   "      x: e.clientX,",
   "      y: e.clientY,",
   "      key: e.key,",
   "      deltaX: e.deltaX,",
   "      deltaY: e.deltaY,",
   "      shiftKey: e.shiftKey,",
   "      ctrlKey: e.ctrlKey,",
   "      altKey: e.altKey,",
   "      metaKey: e.metaKey,",
   "      locator: locatorOf(e.target),",
   "    \x7d);",
   "  \x7d;"]

/-- The lines of the program after the one that names the events. -/
def listenerAfter : List String :=
  ["    window.addEventListener(type, send, \x7b capture: true, passive: true \x7d);",
   "  \x7d",
   "\x7d)();",
   ""]

/-- The line of the program that names the events. -/
def listenerLoop : String :=
  "  for (const type of " ++ (Value.list (domEvents.map .str)).display ++ ") \x7b"

/-- The program that a page runs. -/
def listener : String :=
  Text.joinLines (listenerBefore ++ [listenerLoop] ++ listenerAfter)

/-- The expression for the locator of what has the focus. -/
def focusExpression : String :=
  "() => window.__codegenLocatorOf ? window.__codegenLocatorOf(document.activeElement) : ''"

end SessionRecorder.Page
