/-!
A complete file around the code of a layout.
-/

namespace LayoutCompose.Kotlin

/-- The names that the code of a layout may use. -/
def imports : List String :=
  ["androidx.compose.foundation.*",
    "androidx.compose.foundation.layout.*",
    "androidx.compose.foundation.rememberScrollState",
    "androidx.compose.foundation.selection.selectableGroup",
    "androidx.compose.foundation.shape.RoundedCornerShape",
    "androidx.compose.foundation.text.KeyboardOptions",
    "androidx.compose.material.*",
    "androidx.compose.material.ExperimentalMaterialApi",
    "androidx.compose.runtime.Composable",
    "androidx.compose.ui.Alignment",
    "androidx.compose.ui.Modifier",
    "androidx.compose.ui.draw.alpha",
    "androidx.compose.ui.draw.paint",
    "androidx.compose.ui.graphics.Color",
    "androidx.compose.ui.layout.ContentScale",
    "androidx.compose.ui.platform.LocalDensity",
    "androidx.compose.ui.res.*",
    "androidx.compose.ui.semantics.contentDescription",
    "androidx.compose.ui.semantics.semantics",
    "androidx.compose.ui.text.TextStyle",
    "androidx.compose.ui.text.font.*",
    "androidx.compose.ui.text.input.KeyboardType",
    "androidx.compose.ui.text.input.PasswordVisualTransformation",
    "androidx.compose.ui.text.style.TextAlign",
    "androidx.compose.ui.tooling.preview.Preview",
    "androidx.compose.ui.unit.dp",
    "androidx.compose.ui.unit.sp",
    "androidx.constraintlayout.compose.ConstraintLayout",
    "androidx.constraintlayout.compose.Dimension"]

/-- A file with a function of the given name around `body`, which stands at depth one, and a
preview of it. -/
def screen (name body : String) : String :=
  String.join (imports.map fun i => "import " ++ i ++ "\n") ++
    "\n@Composable\n@OptIn(ExperimentalMaterialApi::class)\nfun " ++ name ++ "() \x7b\n" ++
    body ++
    "\x7d\n\n@Preview(showBackground = true)\n@Composable\nfun " ++ name ++
    "Preview() \x7b\n    " ++ name ++ "()\n\x7d\n"

end LayoutCompose.Kotlin
