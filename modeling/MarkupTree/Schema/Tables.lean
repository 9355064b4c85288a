namespace MarkupTree.Schema

def svgElementNames : List String := [
  "foreignObject", "animateMotion", "animateTransform", "clipPath", "feBlend", "feColorMatrix",
  "feComponentTransfer", "feComposite", "feConvolveMatrix", "feDiffuseLighting",
  "feDisplacementMap", "feDistantLight", "feDropShadow", "feFlood", "feFuncA", "feFuncB",
  "feFuncG", "feFuncR", "feGaussianBlur", "feImage", "feMergeNode", "feMorphology", "feOffset",
  "fePointLight", "feSpecularLighting", "feSpotLight", "feTile", "feTurbulence", "linearGradient",
  "radialGradient", "textPath", "altGlyph", "altGlyphDef", "altGlyphItem", "animateColor",
  "feMerge", "glyphRef"]

def svgAttributeNames : List String := [
  "attributeName", "attributeType", "baseFrequency", "baseProfile", "calcMode", "clipPathUnits",
  "diffuseConstant", "edgeMode", "filterUnits", "glyphRef", "gradientTransform", "gradientUnits",
  "kernelMatrix", "kernelUnitLength", "keyPoints", "keySplines", "keyTimes", "lengthAdjust",
  "limitingConeAngle", "markerHeight", "markerUnits", "markerWidth", "maskContentUnits",
  "maskUnits", "numOctaves", "pathLength", "patternContentUnits", "patternTransform",
  "patternUnits", "pointsAtX", "pointsAtY", "pointsAtZ", "preserveAlpha", "preserveAspectRatio",
  "primitiveUnits", "refX", "refY", "repeatCount", "repeatDur", "requiredExtensions",
  "requiredFeatures", "specularConstant", "specularExponent", "spreadMethod", "startOffset",
  "stdDeviation", "stitchTiles", "surfaceScale", "systemLanguage", "tableValues", "targetX",
  "targetY", "textLength", "viewBox", "viewTarget", "xChannelSelector", "yChannelSelector",
  "zoomAndPan"]

/-- SVG presentation attributes, which are written with dashes. -/
def svgDashedAttributes : List String := [
  "alignment-baseline", "baseline-shift", "clip-path", "clip-rule", "color-interpolation",
  "color-interpolation-filters", "color-profile", "color-rendering", "dominant-baseline",
  "enable-background", "fill-opacity", "fill-rule", "flood-color", "flood-opacity", "font-family",
  "font-size", "font-size-adjust", "font-stretch", "font-style", "font-variant", "font-weight",
  "glyph-orientation-horizontal", "glyph-orientation-vertical", "image-rendering",
  "letter-spacing", "lighting-color", "marker-end", "marker-mid", "marker-start", "paint-order",
  "pointer-events", "shape-rendering", "stop-color", "stop-opacity", "stroke-dasharray",
  "stroke-dashoffset", "stroke-linecap", "stroke-linejoin", "stroke-miterlimit", "stroke-opacity",
  "stroke-width", "text-anchor", "text-decoration", "text-rendering", "unicode-bidi",
  "vector-effect", "word-spacing", "writing-mode"]

/-- SVG properties named as their attributes, but for the capital in `tabIndex`. -/
def svgPlainProperties : List String := [
  "by", "color", "cursor", "cx", "cy", "d", "direction", "display", "dx", "dy", "fill", "filter",
  "from", "fr", "fx", "fy", "height", "href", "id", "in", "in2", "lang", "mask", "offset",
  "opacity", "operator", "orient", "overflow", "path", "points", "r", "rotate", "rx", "ry",
  "scale", "stroke", "style", "tabIndex", "to", "transform", "type", "values", "version",
  "visibility", "width", "x", "x1", "x2", "y", "y1", "y2"]

def svgRenamed : List (String × String) := [
  ("className", "class")]

/-- HTML properties whose attribute is the property name in lower case. -/
def htmlPlainProperties : List String := [
  "abbr", "accept", "accessKey", "action", "allow", "allowFullScreen", "alt", "async",
  "autoCapitalize", "autoComplete", "autoFocus", "autoPlay", "charSet", "checked", "cite", "cols",
  "colSpan", "content", "contentEditable", "controls", "coords", "crossOrigin", "data",
  "dateTime", "decoding", "default", "defer", "dir", "dirName", "disabled", "download",
  "draggable", "encType", "enterKeyHint", "form", "formAction", "formEncType", "formMethod",
  "formNoValidate", "formTarget", "headers", "height", "hidden", "high", "href", "hrefLang", "id",
  "inert", "inputMode", "integrity", "is", "itemId", "itemProp", "itemRef", "itemScope",
  "itemType", "kind", "label", "lang", "language", "list", "loading", "loop", "low", "manifest",
  "max", "maxLength", "media", "method", "min", "minLength", "multiple", "muted", "name", "nonce",
  "noModule", "noValidate", "open", "optimum", "pattern", "ping", "placeholder", "playsInline",
  "popover", "poster", "preload", "readOnly", "referrerPolicy", "rel", "required", "reversed",
  "rows", "rowSpan", "sandbox", "scope", "scoped", "seamless", "selected", "shape", "size",
  "sizes", "slot", "span", "spellCheck", "src", "srcDoc", "srcLang", "srcSet", "start", "step",
  "style", "tabIndex", "target", "title", "translate", "type", "typeMustMatch", "useMap", "value",
  "width", "wrap"]

def htmlRenamed : List (String × String) := [
  ("acceptCharset", "accept-charset"), ("className", "class"), ("htmlFor", "for"),
  ("httpEquiv", "http-equiv")]

def linkProperties : List String := [
  "xLinkActuate", "xLinkArcRole", "xLinkHref", "xLinkRole", "xLinkShow", "xLinkTitle", "xLinkType"]

def xmlProperties : List String := [
  "xmlBase", "xmlLang", "xmlSpace"]

def namespaceDeclarations : List (String × String) := [
  ("xmlns", "xmlns"), ("xmlnsXLink", "xmlns:xlink")]

def ariaProperties : List String := [
  "ariaActiveDescendant", "ariaAtomic", "ariaAutoComplete", "ariaBusy", "ariaChecked",
  "ariaColCount", "ariaColIndex", "ariaColSpan", "ariaControls", "ariaCurrent", "ariaDescribedBy",
  "ariaDetails", "ariaDisabled", "ariaDropEffect", "ariaErrorMessage", "ariaExpanded",
  "ariaFlowTo", "ariaGrabbed", "ariaHasPopup", "ariaHidden", "ariaInvalid", "ariaKeyShortcuts",
  "ariaLabel", "ariaLabelledBy", "ariaLevel", "ariaLive", "ariaModal", "ariaMultiLine",
  "ariaMultiSelectable", "ariaOrientation", "ariaOwns", "ariaPlaceholder", "ariaPosInSet",
  "ariaPressed", "ariaReadOnly", "ariaRelevant", "ariaRequired", "ariaRoleDescription",
  "ariaRowCount", "ariaRowIndex", "ariaRowSpan", "ariaSelected", "ariaSetSize", "ariaSort",
  "ariaValueMax", "ariaValueMin", "ariaValueNow", "ariaValueText", "role"]

end MarkupTree.Schema
